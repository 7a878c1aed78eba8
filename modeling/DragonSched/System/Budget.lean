import DragonSched.System.Preempt

namespace DragonOS

/-- The budgets of all run queues, `cpu_exec_proc_jiffies`. -/
def jiffies (kernel : Kernel) (queue : QueueRef) : BitVec 64 := (kernel.queues queue).cpuExecProcJiffies

/-- The budget of the run queue that `timer_update_jiffies` decrements on `cpu`. -/
def budget (kernel : Kernel) (cpu : Nat) : BitVec 64 := jiffies kernel ⟨.root, cpu⟩

/-- Whether the process running on `cpu` has `NEED_SCHEDULE` set. -/
def needSchedule (kernel : Kernel) (cpu : Nat) : Bool :=
  (kernel.pcbs (kernel.current cpu)).flags.contains .needSchedule

section Jiffies

variable (kernel : Kernel)

@[simp] theorem jiffies_updPcb (pcb change) : jiffies (kernel.updPcb pcb change) = jiffies kernel := rfl
@[simp] theorem jiffies_setState (pcb state) : jiffies (kernel.setState pcb state) = jiffies kernel := rfl
@[simp] theorem jiffies_updFlags (pcb change) : jiffies (kernel.updFlags pcb change) = jiffies kernel := rfl
@[simp] theorem jiffies_setVirtualRuntime (pcb value) :
    jiffies (kernel.setVirtualRuntime pcb value) = jiffies kernel := rfl
@[simp] theorem jiffies_setCurrent (cpu pcb) : jiffies (kernel.setCurrent cpu pcb) = jiffies kernel := rfl

theorem jiffies_updQueue {queue : QueueRef} {change : CFSQueue → CFSQueue}
    (keeps : (change (kernel.queues queue)).cpuExecProcJiffies = (kernel.queues queue).cpuExecProcJiffies) :
    jiffies (kernel.updQueue queue change) = jiffies kernel := by
  funext other
  by_cases same : other = queue
  · subst same
    simpa [jiffies] using keeps
  · simp [jiffies, same]

@[simp] theorem jiffies_enqueue (queue pcbs pcb) :
    jiffies (kernel.updQueue queue fun q => q.enqueue pcbs pcb) = jiffies kernel :=
  jiffies_updQueue kernel (by unfold CFSQueue.enqueue; split <;> rfl)

@[simp] theorem jiffies_dequeue (queue) :
    jiffies (kernel.updQueue queue fun q => q.dequeue.2) = jiffies kernel :=
  jiffies_updQueue kernel (by unfold CFSQueue.dequeue; split <;> rfl)

@[simp] theorem jiffies_resetVruntime (queue pcb) :
    jiffies (SchedulerCFS.resetVruntime kernel queue pcb) = jiffies kernel := by
  unfold SchedulerCFS.resetVruntime
  split <;> rfl

end Jiffies

theorem jiffies_schedEnqueue {kernel next : Kernel} {pcb : PcbRef} {resetTime : Bool}
    (enqueued : schedEnqueue kernel pcb resetTime = some next) : jiffies next = jiffies kernel := by
  unfold schedEnqueue at enqueued
  split at enqueued
  · obtain ⟨cpu, -, -, rfl⟩ := SchedulerCFS.enqueueResetVruntime_eq_some.mp enqueued
    simp
  · obtain ⟨cpu, -, -, rfl⟩ := SchedulerCFS.enqueuePcb_eq_some.mp enqueued
    simp

theorem budget_refreshBudget (kernel : Kernel) (cpu : Nat) (priority : SchedPriority) :
    budget (SchedulerCFS.refreshBudget kernel ⟨.root, cpu⟩ ⟨.root, cpu⟩ priority) cpu =
      if (budget kernel cpu).sle 0#64 then 10#64 else budget kernel cpu := by
  unfold SchedulerCFS.refreshBudget
  split <;> simp_all [budget, jiffies, CFSQueue.updateCpuExecProcJiffies]

/-- `sched` refreshes a used-up budget of its CPU to 10, else leaves it. -/
theorem budget_sched {kernel next : Kernel} {cpu : Nat} (scheduled : Arch.sched kernel cpu = some next) :
    budget next cpu = if (budget kernel cpu).sle 0#64 then 10#64 else budget kernel cpu := by
  obtain ⟨after, picked, schedEq, switched⟩ := Arch.sched_eq_some.mp scheduled
  have switchedBudget : budget next cpu = budget after cpu := by
    rcases switched with ⟨-, rfl⟩ | ⟨_, _, _, _, rfl⟩ <;> rfl
  obtain ⟨selected, queue, se, selectedEq, proc, -, decided⟩ := SchedulerCFS.sched_eq_some.mp schedEq
  obtain ⟨-, rfl, rest, dequeued, rfl⟩ := SchedulerCFS.schedSelect_eq_some.mp selectedEq
  have selectedJiffies : jiffies (((kernel.updFlags (kernel.current cpu) (·.remove .needSchedule)).updQueue
      ⟨.root, cpu⟩ fun _ => rest).updQueue ⟨.root, cpu⟩ fun q => q.dequeue.2) = jiffies kernel := by
    rw [jiffies_dequeue, jiffies_updQueue _ (CFSQueue.dequeueSe_eq_some dequeued).2.1, jiffies_updFlags]
  rw [switchedBudget]
  rcases SchedulerCFS.schedDecide_cases decided with
    ⟨-, -, rfl⟩ | ⟨-, -, -, requeued, requeuedEq, rfl⟩ | ⟨-, -, -, pushedEq⟩
  · rw [budget_refreshBudget]
    simp only [budget, selectedJiffies]
  · rw [budget_refreshBudget]
    simp only [budget, jiffies_schedEnqueue requeuedEq, selectedJiffies]
  · rw [budget, jiffies_schedEnqueue pushedEq, ← budget, budget_refreshBudget]
    simp only [budget, selectedJiffies]

@[simp] theorem flags_setVirtualRuntime (kernel : Kernel) (pcb value) (other : PcbRef) :
    ((kernel.setVirtualRuntime pcb value).pcbs other).flags = (kernel.pcbs other).flags := by
  by_cases same : other = pcb <;> simp [Kernel.setVirtualRuntime, same]

@[simp] theorem flags_updFlags (kernel : Kernel) (pcb change) (other : PcbRef) :
    ((kernel.updFlags pcb change).pcbs other).flags =
      if other = pcb then change (kernel.pcbs pcb).flags else (kernel.pcbs other).flags := by
  by_cases same : other = pcb <;> simp [Kernel.updFlags, same]

/-- A tick takes one jiffy off its CPU's budget and flags a used-up budget. -/
theorem budget_timer {kernel next : Kernel} {cpu : Nat}
    (ticked : SchedulerCFS.timerUpdateJiffies kernel .root cpu = some next) :
    budget next cpu = budget kernel cpu - 1#64 ∧
      ((budget next cpu).sle 0#64 = true → needSchedule next cpu = true) ∧
      (needSchedule kernel cpu = true → needSchedule next cpu = true) := by
  simp only [SchedulerCFS.timerUpdateJiffies, bind, Option.bind_eq_some, Kernel.cpuQueue_eq_some,
    pure, Option.some.injEq] at ticked
  obtain ⟨_, ⟨-, rfl⟩, rfl⟩ := ticked
  set decremented := kernel.updQueue ⟨.root, cpu⟩ fun q =>
    { q with cpuExecProcJiffies := q.cpuExecProcJiffies - 1#64 } with decrementedEq
  have decrementedBudget : (decremented.queues ⟨.root, cpu⟩).cpuExecProcJiffies = budget kernel cpu - 1#64 := by
    simp [decrementedEq, budget, jiffies]
  have sameCurrent : decremented.current = kernel.current := rfl
  rw [decrementedBudget]
  by_cases exhausted : (budget kernel cpu - 1#64).sle 0#64 = true
  · rw [if_pos exhausted]
    refine ⟨decrementedBudget, fun _ => ?_, fun _ => ?_⟩ <;> simp [needSchedule]
  · rw [if_neg exhausted]
    refine ⟨decrementedBudget, fun usedUp => ?_, fun flagged => ?_⟩
    · simp only [budget, jiffies, Kernel.setVirtualRuntime_queues] at usedUp
      exact absurd (decrementedBudget ▸ usedUp) exhausted
    · simpa [needSchedule, sameCurrent] using flagged

/-- The ticks of `cpu` at the end of a run since its last other step. -/
def ticksSinceSched (cpu : Nat) (ops : List Op) : Nat :=
  (ops.reverse.takeWhile (· == .timer cpu)).length

@[simp] theorem ticksSinceSched_nil (cpu : Nat) : ticksSinceSched cpu [] = 0 := rfl

@[simp] theorem ticksSinceSched_timer (cpu : Nat) (ops : List Op) :
    ticksSinceSched cpu (ops ++ [.timer cpu]) = ticksSinceSched cpu ops + 1 := by
  simp [ticksSinceSched]

@[simp] theorem ticksSinceSched_sched (cpu : Nat) (ops : List Op) :
    ticksSinceSched cpu (ops ++ [.sched cpu]) = 0 := by
  simp [ticksSinceSched]

/-- A run ends with as many ticks as it counts. -/
theorem ticks_suffix (cpu : Nat) (ops : List Op) :
    List.replicate (ticksSinceSched cpu ops) (Op.timer cpu) <:+ ops := by
  have ticks : ops.reverse.takeWhile (· == .timer cpu) =
      List.replicate (ticksSinceSched cpu ops) (Op.timer cpu) :=
    List.eq_replicate_iff.mpr ⟨rfl, fun op member => by simpa using List.mem_takeWhile_imp member⟩
  rw [← List.reverse_prefix, List.reverse_replicate, ← ticks]
  exact List.takeWhile_prefix _

theorem toInt_sub_one {x : BitVec 64} (above : -2 ^ 63 < x.toInt) : (x - 1#64).toInt = x.toInt - 1 := by
  rw [BitVec.toInt_eq_toNat_cond] at above ⊢
  rw [BitVec.toInt_eq_toNat_cond, BitVec.toNat_sub, BitVec.toNat_ofNat]
  have bound := x.isLt
  split_ifs at above ⊢ <;> omega

theorem sle_zero_iff (x : BitVec 64) : x.sle 0#64 = true ↔ x.toInt ≤ 0 := by
  simp [BitVec.sle]

/-- After `ticks` ticks the budget is its base less the ticks, flagged once used. -/
def BudgetInv (kernel : Kernel) (cpu ticks : Nat) : Prop :=
  ∃ base : Int, 0 ≤ base ∧ base ≤ 10 ∧ (budget kernel cpu).toInt = base - ticks ∧
    (0 < ticks → base ≤ ticks → needSchedule kernel cpu = true)

theorem BudgetInv.timer {kernel next : Kernel} {cpu ticks : Nat} (inv : BudgetInv kernel cpu ticks)
    (few : ticks < 2 ^ 63) (ticked : SchedulerCFS.timerUpdateJiffies kernel .root cpu = some next) :
    BudgetInv next cpu (ticks + 1) := by
  obtain ⟨base, low, high, counted, flagged⟩ := inv
  obtain ⟨decremented, usedUp, kept⟩ := budget_timer ticked
  have value : (budget next cpu).toInt = base - (ticks + 1 : Nat) := by
    rw [decremented, toInt_sub_one (by omega), counted]
    push_cast
    omega
  refine ⟨base, low, high, value, fun _ reached => ?_⟩
  by_cases before : 0 < ticks ∧ base ≤ ticks
  · exact kept (flagged before.1 before.2)
  · exact usedUp ((sle_zero_iff _).mpr (by push_cast at value reached; omega))

theorem BudgetInv.sched {kernel next : Kernel} {cpu ticks : Nat} (inv : BudgetInv kernel cpu ticks)
    (scheduled : Arch.sched kernel cpu = some next) :
    BudgetInv next cpu 0 ∧ 1 ≤ (budget next cpu).toInt := by
  obtain ⟨base, -, high, counted, -⟩ := inv
  have value : 1 ≤ (budget next cpu).toInt ∧ (budget next cpu).toInt ≤ 10 := by
    rw [budget_sched scheduled]
    split
    · decide
    · rename_i positive
      rw [sle_zero_iff] at positive
      omega
  exact ⟨⟨_, by omega, value.2, by simp, fun nope => absurd nope (lt_irrefl 0)⟩, value.1⟩

theorem replicate_suffix_of_le {m n : Nat} (op : Op) (le : m ≤ n) :
    List.replicate m op <:+ List.replicate n op := by
  obtain ⟨k, rfl⟩ := Nat.exists_eq_add_of_le' le
  rw [List.replicate_add]
  exact List.suffix_append _ _

theorem budgetInv_runs {start : Kernel} {cpu : Nat}
    (startBudget : 0 ≤ (budget start cpu).toInt ∧ (budget start cpu).toInt ≤ 10) (ops : List Op) :
    ∀ {final : Kernel}, (∀ op ∈ ops, op = .timer cpu ∨ op = .sched cpu) →
      ¬ List.replicate (2 ^ 63 + 1) (Op.timer cpu) <:+: ops →
      Op.runs start ops = some final → BudgetInv final cpu (ticksSinceSched cpu ops) := by
  induction ops using List.reverseRecOn with
  | nil =>
      intro final _ _ ran
      cases ran
      exact ⟨_, startBudget.1, startBudget.2, by simp, fun nope => absurd nope (lt_irrefl 0)⟩
  | append_singleton init op inductionHypothesis =>
      intro final onCpu fewTicks ran
      rw [Op.runs_append, Option.bind_eq_some] at ran
      obtain ⟨middle, ranInit, ranOp⟩ := ran
      simp only [Op.runs, Option.bind_eq_some, Option.some.injEq, exists_eq_right] at ranOp
      have before := inductionHypothesis (fun other member => onCpu other (List.mem_append_left _ member))
        (fun contained => fewTicks (contained.trans (List.infix_append [] init [op]))) ranInit
      rcases onCpu op (by simp) with rfl | rfl
      · rw [ticksSinceSched_timer]
        refine before.timer ?_ ranOp
        by_contra many
        apply fewTicks
        have ending := ticks_suffix cpu (init ++ [.timer cpu])
        rw [ticksSinceSched_timer] at ending
        exact ((replicate_suffix_of_le _ (by omega)).trans ending).isInfix
      · rw [ticksSinceSched_sched]
        exact (before.sched ranOp).1

/-- On one CPU the budget stays at most 10 and is flagged after 10 ticks. -/
theorem budget_bounded {start final : Kernel} {cpu : Nat} {ops : List Op}
    (onCpu : ∀ op ∈ ops, op = .timer cpu ∨ op = .sched cpu)
    (startBudget : 0 ≤ (budget start cpu).toInt ∧ (budget start cpu).toInt ≤ 10)
    (fewTicks : ¬ List.replicate (2 ^ 63 + 1) (Op.timer cpu) <:+: ops)
    (ran : Op.runs start ops = some final) :
    (budget final cpu).toInt ≤ 10 ∧
      (ops.getLast? = some (.sched cpu) → 1 ≤ (budget final cpu).toInt) ∧
      (10 ≤ ticksSinceSched cpu ops → needSchedule final cpu = true) := by
  obtain ⟨base, -, high, counted, flagged⟩ := budgetInv_runs startBudget ops onCpu fewTicks ran
  refine ⟨by omega, fun lastSched => ?_, fun reached => flagged (by omega) (by omega)⟩
  obtain ⟨init, rfl⟩ := List.getLast?_eq_some_iff.mp lastSched
  rw [Op.runs_append, Option.bind_eq_some] at ran
  obtain ⟨middle, ranInit, ranOp⟩ := ran
  simp only [Op.runs, Option.bind_eq_some, Option.some.injEq, exists_eq_right] at ranOp
  have before := budgetInv_runs startBudget init
    (fun other member => onCpu other (List.mem_append_left _ member))
    (fun contained => fewTicks (contained.trans (List.infix_append [] init [.sched cpu]))) ranInit
  exact (before.sched ranOp).2

theorem twoCpus_budget :
    (budget ((Op.runs twoCpus [.timer 0, .timer 0]).getD twoCpus) 0).toInt ≤ 10 ∧
      ([Op.timer 0, .timer 0].getLast? = some (.sched 0) →
        1 ≤ (budget ((Op.runs twoCpus [.timer 0, .timer 0]).getD twoCpus) 0).toInt) ∧
      (10 ≤ ticksSinceSched 0 [.timer 0, .timer 0] →
        needSchedule ((Op.runs twoCpus [.timer 0, .timer 0]).getD twoCpus) 0 = true) :=
  @budget_bounded twoCpus _ 0 [.timer 0, .timer 0] (by decide) (by decide) (fun contained => by
    have short := contained.length_le
    rw [List.length_replicate] at short
    exact absurd short (by decide)) rfl

theorem timerUpdateJiffies_some (kernel : Kernel) {cpu : Nat} (inRange : cpu < kernel.maxCpuNum) :
    ∃ next, SchedulerCFS.timerUpdateJiffies kernel .root cpu = some next ∧
      next.maxCpuNum = kernel.maxCpuNum := by
  simp [SchedulerCFS.timerUpdateJiffies, Kernel.cpuQueue, inRange]
  split <;> rfl

/-- `n` ticks with no `sched` take `n` off the budget, modulo 2^64. -/
theorem budget_ticks (kernel : Kernel) {cpu : Nat} (inRange : cpu < kernel.maxCpuNum) (n : Nat) :
    ∃ final, Op.runs kernel (List.replicate n (.timer cpu)) = some final ∧
      budget final cpu = budget kernel cpu - BitVec.ofNat 64 n := by
  induction n generalizing kernel with
  | zero => exact ⟨kernel, rfl, by simp⟩
  | succ n inductionHypothesis =>
      obtain ⟨next, ticked, sameCpus⟩ := timerUpdateJiffies_some kernel inRange
      obtain ⟨final, ran, value⟩ := inductionHypothesis next (sameCpus ▸ inRange)
      refine ⟨final, by simp only [List.replicate_succ, Op.runs, Op.run, ticked, Option.some_bind, ran], ?_⟩
      rw [value, (budget_timer ticked).1]
      apply BitVec.eq_of_toNat_eq
      simp only [BitVec.toNat_sub, BitVec.toNat_ofNat]
      omega

/-- From budget 0, 2^63 + 1 ticks wrap the budget to 2^63 - 1. -/
theorem ticks_wrap_budget :
    (Op.runs twoCpus (List.replicate (2 ^ 63 + 1) (.timer 0))).map (fun kernel => (budget kernel 0).toInt) =
      some (2 ^ 63 - 1) := by
  obtain ⟨final, ran, value⟩ := budget_ticks twoCpus (show 0 < twoCpus.maxCpuNum by decide) (2 ^ 63 + 1)
  rw [ran, Option.map_some', value]
  decide

end DragonOS
