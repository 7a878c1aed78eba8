import DragonSched.Process.Manager

namespace DragonOS

/-- One atomic step of the process manager or the scheduler; `sleep` is `mark_sleep`, then `sched`. -/
inductive Op where
  | markSleep (cpu : Nat) (interruptable : Bool)
  | sleep (cpu : Nat) (interruptable : Bool)
  | wakeup (pcb : PcbRef)
  | exit (cpu : Nat) (exitCode : Nat)
  | timer (cpu : Nat)
  | sched (cpu : Nat)
  deriving DecidableEq, Repr

/-- The CPU exists and runs a process that has not exited. -/
def Kernel.RunsLive (kernel : Kernel) (cpu : Nat) : Prop :=
  cpu < kernel.maxCpuNum ∧ (kernel.state (kernel.current cpu)).isExited = false

instance (kernel : Kernel) (cpu : Nat) : Decidable (kernel.RunsLive cpu) :=
  inferInstanceAs (Decidable (_ ∧ _))

namespace Op

/-- The state after the step; an exited process makes no call. -/
def run (kernel : Kernel) : Op → Option Kernel
  | .markSleep cpu interruptable =>
      if kernel.RunsLive cpu then some (ProcessManager.markSleep kernel cpu interruptable).1 else none
  | .sleep cpu interruptable =>
      if kernel.RunsLive cpu then Arch.sched (ProcessManager.markSleep kernel cpu interruptable).1 cpu
      else none
  | .wakeup pcb => (ProcessManager.wakeup kernel pcb).map Prod.fst
  | .exit cpu exitCode => if kernel.RunsLive cpu then ProcessManager.exit kernel cpu exitCode else none
  | .timer cpu => SchedulerCFS.timerUpdateJiffies kernel .root cpu
  | .sched cpu => Arch.sched kernel cpu

section Inversion

variable {kernel next : Kernel} {cpu : Nat} {interruptable : Bool}

theorem run_markSleep_eq_some : (markSleep cpu interruptable).run kernel = some next ↔
    kernel.RunsLive cpu ∧ (ProcessManager.markSleep kernel cpu interruptable).1 = next := by
  by_cases live : kernel.RunsLive cpu <;> simp [run, live]

theorem run_sleep_eq_some : (sleep cpu interruptable).run kernel = some next ↔
    kernel.RunsLive cpu ∧ Arch.sched (ProcessManager.markSleep kernel cpu interruptable).1 cpu = some next := by
  by_cases live : kernel.RunsLive cpu <;> simp [run, live]

theorem run_wakeup_eq_some {pcb : PcbRef} : (wakeup pcb).run kernel = some next ↔
    ∃ result, ProcessManager.wakeup kernel pcb = some (next, result) := by
  simp [run, Option.map_eq_some']

theorem run_exit_eq_some {exitCode : Nat} : (exit cpu exitCode).run kernel = some next ↔
    kernel.RunsLive cpu ∧ ProcessManager.exit kernel cpu exitCode = some next := by
  by_cases live : kernel.RunsLive cpu <;> simp [run, live]

end Inversion

/-- A run of steps, stopping at the first that fails. -/
def runs (kernel : Kernel) : List Op → Option Kernel
  | [] => some kernel
  | op :: rest => (op.run kernel).bind fun next => runs next rest

theorem runs_append (kernel : Kernel) (ops more : List Op) :
    runs kernel (ops ++ more) = (runs kernel ops).bind fun next => runs next more := by
  induction ops generalizing kernel with
  | nil => rfl
  | cons op rest inductionHypothesis =>
      simp only [List.cons_append, runs, Option.bind_assoc]
      exact congrArg _ (funext fun next => inductionHypothesis next)

/-- Steps other than a `mark_sleep` left without its `sched`. -/
def SleepsThenScheds (op : Op) : Prop := ∀ cpu interruptable, op ≠ .markSleep cpu interruptable

end Op

/-- A non-idle process runs while Blocked, between `mark_sleep` and its CPU's `sched`. -/
def Kernel.SleepingOnCpu (kernel : Kernel) (pcb : PcbRef) : Prop :=
  (kernel.pcbs pcb).pid ≠ 0 ∧ (kernel.state pcb).isBlocked = true ∧
    ∃ cpu < kernel.maxCpuNum, kernel.current cpu = pcb

instance (kernel : Kernel) (pcb : PcbRef) : Decidable (kernel.SleepingOnCpu pcb) :=
  inferInstanceAs (Decidable (_ ∧ _ ∧ _))

/-- The step wakes no process sleeping on a CPU, directly or as a waiter. -/
def Op.WakesNoSleeper (kernel : Kernel) : Op → Prop
  | .wakeup pcb => ¬ kernel.SleepingOnCpu pcb
  | .exit cpu _ => ∀ waiter ∈ (kernel.pcbs (kernel.current cpu)).waitQueue, waiter ≠ kernel.current cpu →
      kernel.state waiter = .blocked true → ¬ kernel.SleepingOnCpu waiter
  | _ => True

/-- The states that runs of steps allowed by `allowed` reach from `start`. -/
inductive Reachable (allowed : Op → Prop) (start : Kernel) : Kernel → Prop
  | refl : Reachable allowed start start
  | step {kernel next : Kernel} (op : Op) (before : Reachable allowed start kernel)
      (permitted : allowed op) (stepped : op.run kernel = some next) : Reachable allowed start next

theorem Reachable.of_runs {allowed : Op → Prop} {start : Kernel} :
    ∀ {ops : List Op} {kernel : Kernel}, Reachable allowed start kernel → (∀ op ∈ ops, allowed op) →
      ∀ {final : Kernel}, Op.runs kernel ops = some final → Reachable allowed start final
  | [], _, reached, _, _, ran => by cases ran; exact reached
  | op :: rest, kernel, reached, permitted, final, ran => by
      simp only [Op.runs, Option.bind_eq_some] at ran
      obtain ⟨next, stepped, ran⟩ := ran
      exact Reachable.of_runs (.step op reached (permitted op (by simp)) stepped)
        (fun other member => permitted other (by simp [member])) ran

/-- A property every allowed step keeps holds all along every run. -/
theorem Reachable.induction {allowed : Op → Prop} {start : Kernel} {holds : Kernel → Prop}
    (initial : holds start)
    (preserved : ∀ kernel next op, holds kernel → allowed op → op.run kernel = some next → holds next)
    {kernel : Kernel} (reached : Reachable allowed start kernel) : holds kernel := by
  induction reached with
  | refl => exact initial
  | step op _ permitted stepped inductionHypothesis =>
      exact preserved _ _ op inductionHypothesis permitted stepped

/-- States reached from `start` when each step is allowed where it starts. -/
inductive ReachableWhen (allowed : Kernel → Op → Prop) (start : Kernel) : Kernel → Prop
  | refl : ReachableWhen allowed start start
  | step {kernel next : Kernel} (op : Op) (before : ReachableWhen allowed start kernel)
      (permitted : allowed kernel op) (stepped : op.run kernel = some next) : ReachableWhen allowed start next

/-- A property every step allowed where it starts keeps holds all along every such run. -/
theorem ReachableWhen.induction {allowed : Kernel → Op → Prop} {start : Kernel} {holds : Kernel → Prop}
    (initial : holds start)
    (preserved : ∀ kernel next op, holds kernel → allowed kernel op → op.run kernel = some next → holds next)
    {kernel : Kernel} (reached : ReachableWhen allowed start kernel) : holds kernel := by
  induction reached with
  | refl => exact initial
  | step op _ permitted stepped inductionHypothesis =>
      exact preserved _ _ op inductionHypothesis permitted stepped

end DragonOS
