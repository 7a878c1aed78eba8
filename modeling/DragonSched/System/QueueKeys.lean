import DragonSched.System.Exclusive

namespace DragonOS

/-- `enqueue_se` queues the entity on the recorded CPU, keyed by its own runtime. -/
theorem enqueueSe_entries {kernel next : Kernel} {sched : SchedId} {pcb : PcbRef}
    (enqueued : SchedulerCFS.enqueueSe kernel sched pcb = some next) :
    ∃ cpu se, (kernel.pcbs pcb).schedInfo.se = some se ∧
      (next.queues ⟨sched, cpu⟩).entries.Perm (.se se :: (kernel.queues ⟨sched, cpu⟩).entries) ∧
      ((kernel.ses se).virtualRuntime, Entry.se se) ∈ (next.queues ⟨sched, cpu⟩).lockedQueue.entries := by
  obtain ⟨cpu, -, -, se, seEq, rfl⟩ := SchedulerCFS.enqueueSe_eq_some.mp enqueued
  refine ⟨cpu, se, seEq, ?_, ?_⟩
  · simpa using CFSQueue.enqueueSe_entries kernel.ses (kernel.queues ⟨sched, cpu⟩) se
  · simp [CFSQueue.enqueueSe, RBTree.insert_entries, mem_insertEntry]

/-- A process with the given virtual runtime and scheduling entity. -/
def ProcessControlBlock.withSched (pcb : ProcessControlBlock) (virtualRuntime : Int)
    (se : Option SeRef) : ProcessControlBlock :=
  { pcb with schedInfo := { pcb.schedInfo with virtualRuntime := virtualRuntime, se := se } }

/-- One CPU: idle process 1, process 3 run for 5, process 4 run for 1. -/
def oneCpu : Kernel :=
  { twoCpus with
    maxCpuNum := 1
    pcbs := fun pcb => match pcb with
      | 1 => (samplePcb 0 0 .runnable).withSched 0 (some 1)
      | 3 => (samplePcb 2 0 .runnable).withSched 5 (some 0)
      | 4 => (samplePcb 3 0 .runnable).withSched 1 none
      | _ => samplePcb 1 0 (.blocked true) }

/-- `enqueue_se` keys process 3 by its entity's runtime 0, ahead of process 4. -/
theorem enqueueSe_stale_key :
    ((SchedulerCFS.enqueueSe oneCpu .root 3).bind fun kernel =>
        SchedulerCFS.enqueuePcb kernel .root 4).map
      (fun kernel => ((kernel.queues ⟨.root, 0⟩).lockedQueue.entries, kernel.vruntime 3,
        kernel.vruntime 4, (kernel.queues ⟨.root, 0⟩).dequeue.1)) =
      some ([(0, .se 0), (1, .pcb 4)], 5, 1, .se 0) := by
  decide

/-- `enqueue_se` puts the idle process's entity on the run queue. -/
theorem enqueueSe_idle_entity :
    (oneCpu.pcbs 1).pid = 0 ∧
      (SchedulerCFS.enqueueSe oneCpu .root 1).map (fun kernel => (kernel.queues ⟨.root, 0⟩).entries) =
        some [.se 1] := by
  decide

/-- The runtime `enqueue_reset_vruntime` gives: the first entry's, or its own when empty. -/
theorem vruntime_resetVruntime (kernel : Kernel) (queue : QueueRef) (pcb : PcbRef) :
    (SchedulerCFS.resetVruntime kernel queue pcb).vruntime pcb =
      match (kernel.queues queue).lockedQueue.entries with
      | [] => kernel.vruntime pcb
      | first :: _ => kernel.entryVruntime first.2 := by
  unfold SchedulerCFS.resetVruntime CFSQueue.minVruntime RBTree.getFirst RBTree.len
  cases entries : (kernel.queues queue).lockedQueue.entries <;> simp [entries]

theorem pcbs_resetVruntime (kernel : Kernel) (queue : QueueRef) {pcb other : PcbRef}
    (different : other ≠ pcb) :
    (SchedulerCFS.resetVruntime kernel queue pcb).pcbs other = kernel.pcbs other := by
  unfold SchedulerCFS.resetVruntime
  split <;> simp [Kernel.setVirtualRuntime, different]

/-- `enqueue_reset_vruntime` takes the least key and goes after its equals. -/
theorem enqueueResetVruntime_least {kernel : Kernel} {sched : SchedId} {pcb : PcbRef} {cpu : Nat}
    (onCpu : (kernel.pcbs pcb).schedInfo.onCpu = some cpu) (inRange : cpu < kernel.maxCpuNum)
    (active : (kernel.pcbs pcb).pid ≠ 0)
    (keyed : ∀ entry ∈ (kernel.queues ⟨sched, cpu⟩).lockedQueue.entries,
      entry.1 = kernel.entryVruntime entry.2) :
    ∃ next, SchedulerCFS.enqueueResetVruntime kernel sched pcb = some next ∧
      (∀ other, other ≠ pcb → next.pcbs other = kernel.pcbs other) ∧
      (∀ queue, queue ≠ ⟨sched, cpu⟩ → next.queues queue = kernel.queues queue) ∧
      ((kernel.queues ⟨sched, cpu⟩).lockedQueue.entries = [] →
        next.vruntime pcb = kernel.vruntime pcb ∧
          (next.queues ⟨sched, cpu⟩).lockedQueue.entries = [(kernel.vruntime pcb, .pcb pcb)]) ∧
      ∀ least rest, (kernel.queues ⟨sched, cpu⟩).lockedQueue.entries = least :: rest →
        next.vruntime pcb = least.1 ∧ ∃ ties later, least :: rest = ties ++ later ∧
          (∀ entry ∈ ties, entry.1 = least.1) ∧ (∀ entry ∈ later, least.1 < entry.1) ∧
          (next.queues ⟨sched, cpu⟩).lockedQueue.entries = ties ++ (least.1, .pcb pcb) :: later := by
  have same := SameProcs.resetVruntime kernel ⟨sched, cpu⟩ pcb
  have inserted : ((kernel.queues ⟨sched, cpu⟩).enqueue
      (SchedulerCFS.resetVruntime kernel ⟨sched, cpu⟩ pcb).pcbs pcb).lockedQueue.entries =
        insertEntry ((SchedulerCFS.resetVruntime kernel ⟨sched, cpu⟩ pcb).vruntime pcb) (.pcb pcb)
          (kernel.queues ⟨sched, cpu⟩).lockedQueue.entries := by
    rw [CFSQueue.enqueue, if_neg (by rw [same.pid]; exact active)]
    rfl
  refine ⟨_, SchedulerCFS.enqueueResetVruntime_eq_some.mpr ⟨cpu, onCpu, inRange, rfl⟩,
    fun other different => pcbs_resetVruntime kernel _ different,
    fun queue elsewhere => by simp [elsewhere], fun empty => ?_, fun least rest queued => ?_⟩
  · simp only [Kernel.updQueue_queues, ite_true, queues_resetVruntime, inserted]
    rw [Kernel.vruntime, Kernel.updQueue_pcbs, ← Kernel.vruntime, vruntime_resetVruntime, empty]
    exact ⟨rfl, rfl⟩
  · have reset : (SchedulerCFS.resetVruntime kernel ⟨sched, cpu⟩ pcb).vruntime pcb = least.1 := by
      rw [vruntime_resetVruntime, queued]
      exact (keyed least (by rw [queued]; exact List.mem_cons_self _ _)).symm
    have sorted := (kernel.queues ⟨sched, cpu⟩).lockedQueue.sorted
    have lowest : ∀ entry ∈ least :: rest, least.1 ≤ entry.1 := by
      rw [queued, List.sorted_cons] at sorted
      exact fun entry member => (List.mem_cons.mp member).elim (fun first => first ▸ le_refl _)
        (sorted.1 entry)
    obtain ⟨ties, later, split, lower, upper, placed⟩ := insertEntry_split least.1 (Entry.pcb pcb) sorted
    rw [queued] at split placed
    simp only [Kernel.updQueue_queues, ite_true, queues_resetVruntime, inserted, reset]
    refine ⟨reset, ties, later, split, fun entry member => ?_, upper, by rw [queued]; exact placed⟩
    exact le_antisymm (lower entry member) (lowest entry (split ▸ List.mem_append_left _ member))

/-- CPU 0 of `oneCpu` with process 4, which has run for 1, on its queue. -/
def oneQueued : Kernel := (SchedulerCFS.enqueuePcb oneCpu .root 4).getD oneCpu

theorem oneQueued_resetVruntime_least :
    ∃ next, SchedulerCFS.enqueueResetVruntime oneQueued .root 3 = some next ∧
      (∀ other, other ≠ 3 → next.pcbs other = oneQueued.pcbs other) ∧
      (∀ queue, queue ≠ ⟨.root, 0⟩ → next.queues queue = oneQueued.queues queue) ∧
      ((oneQueued.queues ⟨.root, 0⟩).lockedQueue.entries = [] →
        next.vruntime 3 = oneQueued.vruntime 3 ∧
          (next.queues ⟨.root, 0⟩).lockedQueue.entries = [(oneQueued.vruntime 3, .pcb 3)]) ∧
      ∀ least rest, (oneQueued.queues ⟨.root, 0⟩).lockedQueue.entries = least :: rest →
        next.vruntime 3 = least.1 ∧ ∃ ties later, least :: rest = ties ++ later ∧
          (∀ entry ∈ ties, entry.1 = least.1) ∧ (∀ entry ∈ later, least.1 < entry.1) ∧
          (next.queues ⟨.root, 0⟩).lockedQueue.entries = ties ++ (least.1, .pcb 3) :: later :=
  @enqueueResetVruntime_least oneQueued .root 3 0 (by decide) (by decide) (by decide) (by decide)

example :
    (SchedulerCFS.enqueueResetVruntime oneQueued .root 3).map
      (fun kernel => (kernel.vruntime 3, (kernel.queues ⟨.root, 0⟩).lockedQueue.entries)) =
      some (1, [(1, .pcb 4), (1, .pcb 3)]) := by
  decide

end DragonOS
