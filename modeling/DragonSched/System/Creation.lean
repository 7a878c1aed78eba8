import DragonSched.System.Exclusive
import DragonSched.Process.TaskGroup

namespace DragonOS

open ProcessControlBlock

/-- A change of one process that keeps a field keeps it for every process. -/
theorem field_updPcb {α : Type} (field : ProcessControlBlock → α) (kernel : Kernel) (pcb : PcbRef)
    {change : ProcessControlBlock → ProcessControlBlock} (keeps : ∀ p, field (change p) = field p)
    (other : PcbRef) : field ((kernel.updPcb pcb change).pcbs other) = field (kernel.pcbs other) := by
  by_cases same : other = pcb <;> simp [same, keeps]

/-- A kernel stack fresh from `KernelStack::new`: its lowest word is null. -/
def freshStack : KernelStack := { stack := some 0x8000, bottom := 0, canBeFreed := true }

/-- `KernelStack::pcb` and `Drop` read the base address, not the word `set_pcb` stores. -/
theorem kernelStack_reads_base (base pcb : Nat) (allocated : 0 < base) :
    (KernelStack.new base).pcb = some (some base) ∧
      ∃ stack, (KernelStack.new base).setPcb pcb = some (.ok stack) ∧ stack.bottom = pcb ∧
        stack.pcb = some (some base) ∧ stack.drop = some base ∧
        (0 < pcb → ∀ other, stack.setPcb other = some (.error .EPERM)) := by
  refine ⟨by simpa [KernelStack.new, KernelStack.pcb] using allocated.ne', _, rfl, rfl,
    by simp [KernelStack.new, KernelStack.pcb, allocated.ne'], rfl, fun stored other => ?_⟩
  simp [KernelStack.setPcb, KernelStack.new, stored.ne']

theorem freshStack_reads_base :
    (KernelStack.new 0x8000).pcb = some (some 0x8000) ∧
      ∃ stack, (KernelStack.new 0x8000).setPcb 6 = some (.ok stack) ∧ stack.bottom = 6 ∧
        stack.pcb = some (some 0x8000) ∧ stack.drop = some 0x8000 ∧
        (0 < 6 → ∀ other, stack.setPcb other = some (.error .EPERM)) :=
  kernelStack_reads_base 0x8000 6 (by decide)

/-- Process 3, running on CPU 0, creates a process whose entity names no process. -/
theorem created_entity_without_pcb :
    (ProcessControlBlock.new twoCpus 0 "child" freshStack).map
      (fun created => (created.1.pcbs created.2).schedInfo.se.map fun se => (created.1.ses se).pcb) =
      some (some none) := by
  decide

/-- `twoCpus` whose next task group takes address 1, after its group 0. -/
def groupKernel : Kernel := { twoCpus with nextGroup := 1 }

/-- New group 1 under group 0 queues its CPU 0 entity on its own queue. -/
theorem group_entity_in_own_queue :
    (TaskGroup.initGroupSe (TaskGroup.new groupKernel 0).1 1 0 1).map
      (fun kernel => ((kernel.queues ⟨.group 1, 0⟩).entries, (kernel.queues ⟨.group 0, 0⟩).entries,
        (kernel.ses 0).myQ, (kernel.ses 0).cfsRq)) =
      some ([.se 0], [], some ⟨.group 1, 0⟩, some ⟨.group 0, 0⟩) := by
  decide

/-- `twoCpus` with the init process 5 runnable and on CPU 0's run queue. -/
def initQueued : Kernel :=
  { twoCpus with
    pcbs := fun pcb => if pcb = 5 then samplePcb 1 0 .runnable else twoCpus.pcbs pcb
    queues := fun queue =>
      if queue = ⟨.root, 0⟩ then (CFSQueue.new 1).enqueue twoCpus.pcbs 5 else twoCpus.queues queue }

/-- After process 3 exits, init holds its child, whose parent links still name 3. -/
theorem adopted_child_keeps_parent :
    ((ProcessControlBlock.new initQueued 0 "child" freshStack).bind fun created =>
        (ProcessManager.exit created.1 0 0).map fun kernel => (kernel, created.2)).map
      (fun result => ((result.1.pcbs 5).children 4, (result.1.pcbs 3).children 4,
        (result.1.pcbs result.2).parentPcb, (result.1.pcbs result.2).basic.ppid, result.1.current 0)) =
      some (some 6, none, some 3, 2, 5) := by
  decide

end DragonOS
