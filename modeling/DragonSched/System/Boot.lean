import DragonSched.System.Fairness
import Mathlib.Algebra.BigOperators.Ring

namespace DragonOS

open Finset

/-- A process runs on one CPU at most when the CPUs run distinct processes. -/
theorem runningCount_le_one {kernel : Kernel}
    (distinct : ∀ cpu < kernel.maxCpuNum, ∀ other < kernel.maxCpuNum,
      kernel.current cpu = kernel.current other → cpu = other) (pcb : PcbRef) :
    runningCount kernel pcb ≤ 1 := by
  rw [runningCount, sum_boole, Nat.cast_id, card_le_one]
  intro cpu listed other otherListed
  simp only [mem_filter, mem_range] at listed otherListed
  exact distinct cpu listed.1 other otherListed.1 (listed.2.trans otherListed.2.symm)

/-- Empty root queues, on CPUs that run distinct awake processes, give the invariant and keys. -/
theorem RunQueueInv.of_empty {kernel : Kernel}
    (empty : ∀ cpu, (kernel.queues ⟨.root, cpu⟩).lockedQueue.entries = [])
    (distinct : ∀ cpu < kernel.maxCpuNum, ∀ other < kernel.maxCpuNum,
      kernel.current cpu = kernel.current other → cpu = other)
    (awake : ∀ cpu < kernel.maxCpuNum, RunsAwake kernel cpu) :
    RunQueueInv kernel ∧ KeysMatch kernel := by
  have unqueued (pcb : PcbRef) : queuedCount kernel pcb = 0 := by
    simp [queuedCount, CFSQueue.entries, empty]
  refine ⟨⟨⟨fun pcb => ?_, fun pcb queued => ?_, fun cpu _ entry member => ?_⟩, awake⟩,
    fun cpu _ entry member => ?_⟩
  · rw [unqueued, Nat.zero_add]
    exact runningCount_le_one distinct pcb
  · rw [unqueued] at queued
    cases queued
  · simp [CFSQueue.entries, empty] at member
  · simp [empty] at member

/-- `sched_cfs_init` runs once, and its queues start runs keeping both invariants. -/
theorem schedCfsInit_invariants (kernel : Kernel) (unset : kernel.cfsSchedulerPtr = false)
    (distinct : ∀ cpu < kernel.maxCpuNum, ∀ other < kernel.maxCpuNum,
      kernel.current cpu = kernel.current other → cpu = other)
    (awake : ∀ cpu < kernel.maxCpuNum, RunsAwake kernel cpu) :
    ∃ boot, schedCfsInit kernel = some boot ∧ schedCfsInit boot = none ∧
      ∀ reached, Reachable Op.SleepsThenScheds boot reached → RunQueueInv reached ∧ KeysMatch reached := by
  obtain ⟨inv, keyed⟩ := @RunQueueInv.of_empty { SchedulerCFS.new kernel with cfsSchedulerPtr := true }
    (fun _ => rfl) distinct awake
  exact ⟨{ SchedulerCFS.new kernel with cfsSchedulerPtr := true }, by simp [schedCfsInit, unset], rfl,
    fun _ reached => inv.reachable_keys keyed reached⟩

/-- `twoCpus` before `sched_cfs_init`. -/
def unbooted : Kernel := { twoCpus with cfsSchedulerPtr := false }

theorem twoCpus_boot_invariants :
    ∃ boot, schedCfsInit unbooted = some boot ∧ schedCfsInit boot = none ∧
      ∀ reached, Reachable Op.SleepsThenScheds boot reached → RunQueueInv reached ∧ KeysMatch reached :=
  schedCfsInit_invariants unbooted rfl (fun cpu _ other _ same => by simpa [unbooted, twoCpus] using same)
    twoCpus_inv.runsAwake

end DragonOS
