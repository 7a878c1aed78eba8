import DragonSched.System.Registry
import DragonSched.System.Preempt

namespace DragonOS

open ProcessManager

/-- What the process table's invariants read: the table, allocators and pids. -/
def registryView (kernel : Kernel) : Option (Pid → Option PcbRef) × PcbRef × Pid × (PcbRef → Pid) :=
  (kernel.allProcess, kernel.nextPcb, kernel.nextPid, fun pcb => (kernel.pcbs pcb).pid)

section View

variable (kernel : Kernel)

@[simp] theorem registryView_updQueue (queue change) :
    registryView (kernel.updQueue queue change) = registryView kernel := rfl

@[simp] theorem registryView_setCurrent (cpu pcb) :
    registryView (kernel.setCurrent cpu pcb) = registryView kernel := rfl

theorem registryView_updPcb (pcb : PcbRef) {change : ProcessControlBlock → ProcessControlBlock}
    (keeps : ∀ p, (change p).pid = p.pid) : registryView (kernel.updPcb pcb change) = registryView kernel := by
  simp only [registryView, Kernel.updPcb_allProcess, Prod.mk.injEq, true_and]
  exact ⟨rfl, rfl, funext fun other => by by_cases same : other = pcb <;> simp [same, keeps]⟩

@[simp] theorem registryView_setState (pcb state) :
    registryView (kernel.setState pcb state) = registryView kernel :=
  registryView_updPcb kernel pcb fun _ => rfl

@[simp] theorem registryView_updFlags (pcb change) :
    registryView (kernel.updFlags pcb change) = registryView kernel :=
  registryView_updPcb kernel pcb fun _ => rfl

@[simp] theorem registryView_setVirtualRuntime (pcb value) :
    registryView (kernel.setVirtualRuntime pcb value) = registryView kernel :=
  registryView_updPcb kernel pcb fun _ => rfl

@[simp] theorem registryView_refreshBudget (tested refreshed priority) :
    registryView (SchedulerCFS.refreshBudget kernel tested refreshed priority) = registryView kernel := by
  unfold SchedulerCFS.refreshBudget
  split <;> rfl

@[simp] theorem registryView_resetVruntime (queue pcb) :
    registryView (SchedulerCFS.resetVruntime kernel queue pcb) = registryView kernel := by
  unfold SchedulerCFS.resetVruntime
  split <;> simp

end View

theorem registryView_schedEnqueue {kernel next : Kernel} {pcb : PcbRef} {resetTime : Bool}
    (enqueued : schedEnqueue kernel pcb resetTime = some next) : registryView next = registryView kernel := by
  unfold schedEnqueue at enqueued
  split at enqueued
  · obtain ⟨cpu, -, -, rfl⟩ := SchedulerCFS.enqueueResetVruntime_eq_some.mp enqueued
    simp
  · obtain ⟨cpu, -, -, rfl⟩ := SchedulerCFS.enqueuePcb_eq_some.mp enqueued
    rfl

theorem registryView_sched {kernel next : Kernel} {cpu : Nat} (scheduled : Arch.sched kernel cpu = some next) :
    registryView next = registryView kernel :=
  @Arch.sched_induction (fun after => registryView after = registryView kernel)
    (fun same selectedEq => by
      obtain ⟨-, rfl, rest, -, rfl⟩ := SchedulerCFS.schedSelect_eq_some.mp selectedEq
      simpa using same)
    (fun _ _ _ same => (registryView_refreshBudget _ _ _ _).trans same)
    (fun same requeued => (registryView_schedEnqueue requeued).trans same)
    (fun _ _ same => same) _ _ _ rfl scheduled

theorem registryView_wakeup {kernel next : Kernel} {pcb : PcbRef} {result : Except SystemError Unit}
    (woken : wakeup kernel pcb = some (next, result)) : registryView next = registryView kernel := by
  rcases wakeup_eq_some.mp woken with ⟨-, -, enqueued⟩ | ⟨-, rfl, -⟩
  · rw [registryView_schedEnqueue enqueued]
    simp
  · rfl

theorem registryView_exit {kernel next : Kernel} {cpu exitCode : Nat}
    (exited : exit kernel cpu exitCode = some next) : registryView next = registryView kernel := by
  obtain ⟨woke, kept, wokenEq, notified, notifiedEq, scheduled⟩ := exit_eq_some.mp exited
  have wokeView := @wakeupWaiters_induction _ (fun next => registryView next = registryView kernel)
    (fun same first => (registryView_wakeup first).trans same) _ _ _ _ (by simp) wokenEq
  have keptView : registryView (woke.updPcb (kernel.current cpu) fun p => { p with waitQueue := kept }) =
      registryView woke := registryView_updPcb _ _ fun _ => rfl
  rw [registryView_sched scheduled, ← wokeView, ← keptView]
  rcases exitNotify_eq_some notifiedEq with rfl | rfl
  · rfl
  · unfold adoptChilden
    split
    · dsimp only
      refine (registryView_updPcb _ _ ?_).trans (registryView_updPcb _ _ ?_) <;> exact fun _ => rfl
    · rfl

/-- No scheduler or process-manager step touches the table, the allocators or pids. -/
theorem registryView_run {kernel next : Kernel} {op : Op} (stepped : op.run kernel = some next) :
    registryView next = registryView kernel := by
  have slept (cpu : Nat) (interruptable : Bool) :
      registryView (markSleep kernel cpu interruptable).1 = registryView kernel := by
    simp only [markSleep]
    split <;> simp
  cases op with
  | markSleep cpu interruptable =>
      obtain ⟨-, rfl⟩ := Op.run_markSleep_eq_some.mp stepped
      exact slept cpu interruptable
  | sleep cpu interruptable => rw [registryView_sched (Op.run_sleep_eq_some.mp stepped).2, slept]
  | wakeup pcb =>
      obtain ⟨result, woken⟩ := Op.run_wakeup_eq_some.mp stepped
      exact registryView_wakeup woken
  | exit cpu exitCode => exact registryView_exit (Op.run_exit_eq_some.mp stepped).2
  | timer cpu =>
      simp only [Op.run, SchedulerCFS.timerUpdateJiffies, bind, Option.bind_eq_some, pure,
        Option.some.injEq] at stepped
      obtain ⟨queue, -, rfl⟩ := stepped
      split <;> simp
  | sched cpu => exact registryView_sched stepped

/-- `ALL_PROCESS` names each process under its own pid, and only processes already allocated. -/
def RegistryConsistent (kernel : Kernel) : Prop :=
  ∀ pid pcb, find kernel pid = some pcb → (kernel.pcbs pcb).pid = pid ∧ pcb < kernel.nextPcb

/-- Allocated processes have distinct pids below `NEXT_PID`, idle processes apart. -/
structure PidsUnique (kernel : Kernel) : Prop where
  below : ∀ pcb < kernel.nextPcb, (kernel.pcbs pcb).pid ≠ 0 → (kernel.pcbs pcb).pid < kernel.nextPid
  distinct : ∀ pcb < kernel.nextPcb, ∀ other < kernel.nextPcb,
    (kernel.pcbs pcb).pid = (kernel.pcbs other).pid → (kernel.pcbs pcb).pid ≠ 0 → pcb = other

/-- The process table's invariants. -/
structure TableInv (kernel : Kernel) : Prop where
  consistent : RegistryConsistent kernel
  unique : PidsUnique kernel

/-- The steps on the process table; creations stop before `NEXT_PID` wraps. -/
inductive TableStep (kernel : Kernel) : Kernel → Prop
  | create {next : Kernel} {pcb : PcbRef} (cpu : Nat) (name : String) (kstack : KernelStack) (isIdle : Bool) :
      kernel.nextPid < 18446744073709551615 →
      ProcessControlBlock.doCreatePcb kernel cpu name kstack isIdle = some (next, pcb) → TableStep kernel next
  | add {next : Kernel} (pcb : PcbRef) : pcb < kernel.nextPcb → addPcb kernel pcb = some next →
      TableStep kernel next
  | release {next : Kernel} (held : PcbRef → Nat) (pid : Pid) : release kernel held pid = some next →
      TableStep kernel next
  | op {next : Kernel} (op : Op) : op.run kernel = some next → TableStep kernel next

section Table

variable {kernel next : Kernel}

theorem TableInv.of_view (inv : TableInv kernel) (same : registryView next = registryView kernel) :
    TableInv next := by
  simp only [registryView, Prod.mk.injEq] at same
  obtain ⟨table, allocator, counter, pids⟩ := same
  have pidEq (pcb : PcbRef) : (next.pcbs pcb).pid = (kernel.pcbs pcb).pid := congrFun pids pcb
  refine ⟨fun pid pcb found => ?_, ?_, ?_⟩
  · rw [find, table] at found
    rw [pidEq, allocator]
    exact inv.consistent pid pcb found
  · simpa only [pidEq, allocator, counter] using inv.unique.below
  · simpa only [pidEq, allocator] using inv.unique.distinct

/-- What `do_create_pcb` changes of the table's view: one more address, and a pid used up. -/
theorem doCreatePcb_view {cpu : Nat} {name : String} {kstack : KernelStack} {isIdle : Bool} {pcb : PcbRef}
    (created : ProcessControlBlock.doCreatePcb kernel cpu name kstack isIdle = some (next, pcb)) :
    pcb = kernel.nextPcb ∧ next.nextPcb = kernel.nextPcb + 1 ∧ next.allProcess = kernel.allProcess ∧
      (next.pcbs pcb).pid = (if isIdle then 0 else kernel.nextPid) ∧
      next.nextPid = (if isIdle then kernel.nextPid else (kernel.nextPid + 1) % 18446744073709551616) ∧
      ∀ other, other ≠ pcb → (next.pcbs other).pid = (kernel.pcbs other).pid := by
  cases isIdle <;>
    simp only [ProcessControlBlock.doCreatePcb, ProcessControlBlock.generatePid, Bool.false_eq_true,
      ite_false, ite_true, bind, Option.bind_eq_some] at created <;>
    obtain ⟨stack, -, created⟩ := created <;>
    split_ifs at created with above <;>
    simp only [pure, Option.bind_eq_some, Option.some.injEq, Prod.mk.injEq] at created
  · obtain ⟨parent, -, rfl, rfl⟩ := created
    refine ⟨rfl, rfl, rfl, ?_, rfl, fun other different => ?_⟩
    · refine (field_updPcb ProcessControlBlock.pid _ parent ?_ _).trans ?_
      · exact fun _ => rfl
      · simp
    · refine (field_updPcb ProcessControlBlock.pid _ parent ?_ other).trans ?_
      · exact fun _ => rfl
      · exact congrArg ProcessControlBlock.pid (Function.update_noteq different _ _)
  · obtain ⟨rfl, rfl⟩ := created
    exact ⟨rfl, rfl, rfl, by simp, rfl, fun other different => by simp [different]⟩
  · exact absurd above (by decide)
  · obtain ⟨rfl, rfl⟩ := created
    exact ⟨rfl, rfl, rfl, by simp, rfl, fun other different => by simp [different]⟩

/-- `do_create_pcb` below `usize::MAX` keeps the invariants: its pid is 0 or not yet handed out. -/
theorem TableInv.doCreatePcb (inv : TableInv kernel) {cpu : Nat} {name : String} {kstack : KernelStack}
    {isIdle : Bool} {pcb : PcbRef} (unwrapped : kernel.nextPid < 18446744073709551615)
    (created : ProcessControlBlock.doCreatePcb kernel cpu name kstack isIdle = some (next, pcb)) :
    TableInv next := by
  obtain ⟨rfl, allocator, table, newPid, counter, pids⟩ := doCreatePcb_view created
  rw [Nat.mod_eq_of_lt (Nat.succ_lt_succ unwrapped)] at counter
  have old (pcb : PcbRef) (below : pcb < kernel.nextPcb) : (next.pcbs pcb).pid = (kernel.pcbs pcb).pid :=
    pids pcb (Nat.ne_of_lt below)
  have grows : kernel.nextPid ≤ next.nextPid := by cases isIdle <;> simp [counter]
  have fresh (named : (next.pcbs kernel.nextPcb).pid ≠ 0) :
      (next.pcbs kernel.nextPcb).pid = kernel.nextPid ∧ next.nextPid = kernel.nextPid + 1 := by
    cases isIdle <;> simp_all
  -- every allocated address is an old one or the new one
  have allocated (pcb : PcbRef) (below : pcb < next.nextPcb) : pcb < kernel.nextPcb ∨ pcb = kernel.nextPcb := by
    rw [allocator] at below
    exact Nat.lt_succ_iff_lt_or_eq.mp below
  -- an old process of a nonzero pid does not share it with the new one
  have apart (pcb : PcbRef) (below : pcb < kernel.nextPcb) (named : (next.pcbs pcb).pid ≠ 0) :
      (next.pcbs pcb).pid ≠ (next.pcbs kernel.nextPcb).pid := fun same => by
    have lower := inv.unique.below pcb below (old pcb below ▸ named)
    rw [← old pcb below, same, (fresh (same ▸ named)).1] at lower
    exact Nat.lt_irrefl _ lower
  refine ⟨fun pid pcb found => ?_, fun pcb below named => ?_,
    fun pcb below other otherBelow same named => ?_⟩
  · rw [find, table] at found
    obtain ⟨named, below⟩ := inv.consistent pid pcb found
    exact ⟨(old pcb below).trans named, allocator ▸ Nat.lt_succ_of_lt below⟩
  · rcases allocated pcb below with below | rfl
    · rw [old pcb below] at named ⊢
      exact Nat.lt_of_lt_of_le (inv.unique.below pcb below named) grows
    · rw [(fresh named).1, (fresh named).2]
      exact Nat.lt_succ_self _
  · rcases allocated pcb below with below | rfl <;> rcases allocated other otherBelow with otherBelow | rfl
    · rw [old pcb below, old other otherBelow] at same
      exact inv.unique.distinct pcb below other otherBelow same (old pcb below ▸ named)
    · exact absurd same (apart pcb below named)
    · exact absurd same.symm (apart other otherBelow (same ▸ named))
    · rfl

/-- `add_pcb` of an allocated process keeps the table's invariants. -/
theorem TableInv.addPcb (inv : TableInv kernel) {pcb : PcbRef} (allocated : pcb < kernel.nextPcb)
    (added : addPcb kernel pcb = some next) : TableInv next := by
  simp only [ProcessManager.addPcb, bind, Option.bind_eq_some, pure, Option.some.injEq] at added
  obtain ⟨table, tableEq, rfl⟩ := added
  refine ⟨fun pid other found => ?_, inv.unique.below, inv.unique.distinct⟩
  simp only [find, Option.some_bind, Function.update_apply] at found
  split_ifs at found with named
  · cases found
    exact ⟨named.symm, allocated⟩
  · exact inv.consistent pid other (by simp [find, tableEq, found])

/-- `release` keeps the table's invariants. -/
theorem TableInv.release (inv : TableInv kernel) {held : PcbRef → Nat} {pid : Pid}
    (released : release kernel held pid = some next) : TableInv next := by
  unfold ProcessManager.release at released
  split at released
  · cases released
    exact inv
  · split at released
    · cases released
      refine ⟨fun other pcb found => ?_, inv.unique.below, inv.unique.distinct⟩
      cases table : kernel.allProcess with
      | none => simp [find, table] at found
      | some entries =>
          simp only [find, table, Option.map_some', Option.some_bind, Function.update_apply] at found
          split_ifs at found
          exact inv.consistent other pcb (by simp [find, table, found])
    · cases released

theorem TableInv.step (inv : TableInv kernel) (stepped : TableStep kernel next) : TableInv next := by
  cases stepped with
  | create cpu name kstack isIdle unwrapped created => exact inv.doCreatePcb unwrapped created
  | add pcb allocated added => exact inv.addPcb allocated added
  | release held pid released => exact inv.release released
  | op op stepped => exact inv.of_view (registryView_run stepped)

end Table

/-- From `init`, along every run, `find` returns the one process of each pid. -/
theorem find_returns_owner {boot start kernel : Kernel} (unique : PidsUnique boot)
    (initialized : init boot = some start) (reached : Relation.ReflTransGen TableStep start kernel) :
    RegistryConsistent kernel ∧ PidsUnique kernel ∧
      ∀ pid pcb, find kernel pid = some pcb → pid ≠ 0 →
        ∀ other < kernel.nextPcb, (kernel.pcbs other).pid = pid → other = pcb := by
  have started : TableInv start := by
    unfold init at initialized
    split at initialized
    · cases initialized
    · cases initialized
      exact ⟨fun pid pcb found => by simp [find] at found, unique.below, unique.distinct⟩
  have inv : TableInv kernel := by
    induction reached with
    | refl => exact started
    | tail _ stepped holds => exact holds.step stepped
  refine ⟨inv.consistent, inv.unique, fun pid pcb found named other below owned => ?_⟩
  obtain ⟨pcbNamed, pcbBelow⟩ := inv.consistent pid pcb found
  exact inv.unique.distinct other below pcb pcbBelow (owned.trans pcbNamed.symm) (owned ▸ named)

/-- `bootCpus` with a second idle process, so pid 1 is process 5's alone. -/
def tableBoot : Kernel :=
  { bootCpus with pcbs := fun pcb => if pcb = 0 then samplePcb 0 0 .runnable else bootCpus.pcbs pcb }

/-- `tableBoot` after `init` and `add_pcb` of CPU 0's process 3, of pid 2. -/
def parentAdded : Kernel := ((init tableBoot).bind fun started => addPcb started 3).getD tableBoot

/-- `parentAdded` after process 3 creates a child. -/
def childCreated : Kernel × PcbRef :=
  (ProcessControlBlock.doCreatePcb parentAdded 0 "child" freshStack false).getD (parentAdded, 0)

/-- `childCreated` after `add_pcb` of the child. -/
def childAdded : Kernel := (addPcb childCreated.1 childCreated.2).getD parentAdded

theorem childAdded_find_returns_owner :
    RegistryConsistent childAdded ∧ PidsUnique childAdded ∧
      ∀ pid pcb, find childAdded pid = some pcb → pid ≠ 0 →
        ∀ other < childAdded.nextPcb, (childAdded.pcbs other).pid = pid → other = pcb :=
  @find_returns_owner tableBoot _ _ ⟨by decide, by decide⟩ rfl
    (.tail (.tail (.tail .refl (@TableStep.add _ parentAdded 3 (by decide) rfl))
      (@TableStep.create _ childCreated.1 childCreated.2 0 "child" freshStack false (by decide) rfl)) (.add 6 (by decide) rfl))

end DragonOS
