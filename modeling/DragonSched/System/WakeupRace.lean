import DragonSched.System.Budget
import DragonSched.System.Lifecycle

namespace DragonOS

open Finset

namespace ProcessManager

/-- The phase between a call's write-locked re-check and its enqueue. -/
def WakeupPhase.isEnqueue : WakeupPhase → Bool
  | .enqueue => true
  | _ => false

end ProcessManager

open ProcessManager

/-- One `wakeup` call, with ghost counts of its wakes and of the entries it added. -/
structure WakeupCall where
  phase : WakeupPhase
  woken : Nat
  enqueues : Nat

/-- A call that has not started. -/
def WakeupCall.fresh : WakeupCall := ⟨.check, 0, 0⟩

/-- The kernel, the `wakeup` calls on one process, and a ghost count of its wakes. -/
structure WakeupRace where
  kernel : Kernel
  calls : Nat → WakeupCall
  transitions : Nat

/-- One when the process goes from Blocked to Runnable between the two states. -/
def wokenUp (pcb : PcbRef) (before after : Kernel) : Nat :=
  if (before.state pcb).isBlocked ∧ after.state pcb = .runnable then 1 else 0

/-- The entries of the process that a step added to the run queues. -/
def queuedRise (pcb : PcbRef) (before after : Kernel) : Nat :=
  queuedCount after pcb - queuedCount before pcb

namespace WakeupRace

/-- The next step of call `i`, adding what it did to the counts. -/
def callStep (race : WakeupRace) (pcb : PcbRef) (i : Nat) : Option WakeupRace :=
  (wakeupStep race.kernel pcb (race.calls i).phase).map fun (kernel, phase) =>
    { kernel := kernel
      calls := Function.update race.calls i
        { phase := phase
          woken := (race.calls i).woken + wokenUp pcb race.kernel kernel
          enqueues := (race.calls i).enqueues + queuedRise pcb race.kernel kernel }
      transitions := race.transitions + wokenUp pcb race.kernel kernel }

/-- Steps of `n` concurrent `wakeup` calls on `pcb`, with its own `mark_sleep` and `exit`. -/
inductive Step (pcb : PcbRef) (n : Nat) : WakeupRace → WakeupRace → Prop
  | call (race : WakeupRace) {i : Nat} (inRange : i < n) {next : WakeupRace}
      (stepped : race.callStep pcb i = some next) : Step pcb n race next
  | markSleep (race : WakeupRace) {cpu : Nat} (interruptable : Bool)
      (running : race.kernel.current cpu = pcb) :
      Step pcb n race
        { race with
          kernel := (markSleep race.kernel cpu interruptable).1
          transitions := race.transitions +
            wokenUp pcb race.kernel (markSleep race.kernel cpu interruptable).1 }
  | exit (race : WakeupRace) {cpu exitCode : Nat} {next : Kernel}
      (running : race.kernel.current cpu = pcb) (exited : ProcessManager.exit race.kernel cpu exitCode = some next) :
      Step pcb n race { race with kernel := next, transitions := race.transitions + wokenUp pcb race.kernel next }

end WakeupRace

/-- A call's counts at each phase: one wake per enqueue, at most one. -/
def WakeupCall.Consistent (call : WakeupCall) : Prop :=
  match call.phase with
  | .check | .recheck => call.woken = 0 ∧ call.enqueues = 0
  | .enqueue => call.woken = 1 ∧ call.enqueues = 0
  | .done (.ok _) => call.enqueues = call.woken ∧ call.woken ≤ 1
  | .done (.error _) => call.woken = 0 ∧ call.enqueues = 0

theorem WakeupCall.Consistent.counts {call : WakeupCall} (consistent : call.Consistent) :
    call.woken ≤ 1 ∧ call.enqueues + (if call.phase.isEnqueue then 1 else 0) = call.woken := by
  rcases call with ⟨_ | _ | _ | (_ | _), woken, enqueues⟩ <;>
    simp only [WakeupCall.Consistent, WakeupPhase.isEnqueue, Bool.false_eq_true, ite_false, ite_true]
      at consistent ⊢ <;> omega

/-- `mark_sleep` never makes its process runnable. -/
theorem wokenUp_markSleep (kernel : Kernel) (cpu : Nat) (interruptable : Bool) :
    wokenUp (kernel.current cpu) kernel (markSleep kernel cpu interruptable).1 = 0 := by
  unfold wokenUp markSleep
  by_cases exited : kernel.state (kernel.current cpu) = .exited 0 <;> simp [exited]

theorem wokenUp_exit {kernel next : Kernel} {cpu exitCode : Nat}
    (exited : ProcessManager.exit kernel cpu exitCode = some next) :
    wokenUp (kernel.current cpu) kernel next = 0 := by
  simp [wokenUp, (exit_states exited).1]

theorem wokenUp_self (pcb : PcbRef) (kernel : Kernel) : wokenUp pcb kernel kernel = 0 := by
  unfold wokenUp
  cases state : kernel.state pcb <;> simp [state]

/-- A call's step only wakes, and adds one entry exactly at its enqueue. -/
theorem wakeupStep_counts {kernel next : Kernel} {pcb : PcbRef} {phase after : WakeupPhase}
    (notIdle : (kernel.pcbs pcb).pid ≠ 0) (stepped : wakeupStep kernel pcb phase = some (next, after)) :
    Wakes kernel next ∧ queuedCount next pcb = queuedCount kernel pcb + if phase.isEnqueue then 1 else 0 := by
  cases phase with
  | check =>
      simp only [wakeupStep, Option.some.injEq, Prod.mk.injEq] at stepped
      obtain ⟨rfl, -⟩ := stepped
      exact ⟨(SameProcs.refl _).wakes, rfl⟩
  | recheck =>
      simp only [wakeupStep, wakeupRecheck, Option.some.injEq] at stepped
      split_ifs at stepped with blocked <;> cases stepped
      · refine ⟨⟨rfl, rfl, Kernel.pid_setState kernel pcb _, fun other => ?_⟩, rfl⟩
        rw [Kernel.state_setState]
        split
        · rename_i here
          exact .inr ⟨here ▸ blocked, rfl⟩
        · exact .inl rfl
      all_goals exact ⟨(SameProcs.refl _).wakes, rfl⟩
  | enqueue =>
      simp only [wakeupStep, Option.map_eq_some', Prod.mk.injEq] at stepped
      obtain ⟨enqueued, enqueuedEq, rfl, -⟩ := stepped
      obtain ⟨same, counts, -⟩ := schedEnqueue_counts enqueuedEq
      exact ⟨same.wakes, by simp [counts, notIdle, WakeupPhase.isEnqueue]⟩
  | done result => simp [wakeupStep] at stepped

theorem queuedCount_markSleep (kernel : Kernel) (cpu : Nat) (interruptable : Bool) :
    queuedCount (markSleep kernel cpu interruptable).1 = queuedCount kernel := by
  dsimp only [markSleep]
  split <;> rfl

theorem pid_markSleep (kernel : Kernel) (cpu : Nat) (interruptable : Bool) (pcb : PcbRef) :
    ((markSleep kernel cpu interruptable).1.pcbs pcb).pid = (kernel.pcbs pcb).pid := by
  dsimp only [markSleep]
  split <;> simp

/-- A `wakeup` adds no entry of a process that is not blocked. -/
theorem queuedCount_wakeup_of_not_blocked {kernel next : Kernel} {waiter pcb : PcbRef}
    {result : Except SystemError Unit} (woken : ProcessManager.wakeup kernel waiter = some (next, result))
    (awake : (kernel.state pcb).isBlocked = false) : queuedCount next pcb = queuedCount kernel pcb := by
  rcases ProcessManager.wakeup_eq_some.mp woken with ⟨blocked, -, enqueued⟩ | ⟨-, rfl, -⟩
  · have other : pcb ≠ waiter := by
      rintro rfl
      rw [blocked] at awake
      cases awake
    rw [(schedEnqueue_counts enqueued).2.1, queuedCount_setState, if_neg fun both => other both.1, add_zero]
  · rfl

/-- The selection only takes entries off the queues. -/
theorem queuedCount_schedSelect_le {kernel selected : Kernel} {cpu : Nat} {queue : QueueRef} {se : Entry}
    (selectedEq : SchedulerCFS.schedSelect kernel cpu = some (selected, queue, se)) (pcb : PcbRef) :
    queuedCount selected pcb ≤ queuedCount kernel pcb := by
  obtain ⟨inRange, rfl, rest, dequeued, rfl⟩ := SchedulerCFS.schedSelect_eq_some.mp selectedEq
  have popped := queuedCount_dequeueSe (kernel.updFlags (kernel.current cpu) (·.remove .needSchedule))
    inRange dequeued pcb
  have loop := queuedCount_dequeue_le ((kernel.updFlags (kernel.current cpu) (·.remove .needSchedule)).updQueue
    ⟨.root, cpu⟩ fun _ => rest) inRange pcb
  simp only [queuedCount_updFlags] at popped
  omega

/-- `sched` on a CPU whose process is not runnable only takes entries off the queues. -/
theorem queuedCount_sched_le {kernel next : Kernel} {cpu : Nat} (scheduled : Arch.sched kernel cpu = some next)
    (stopped : kernel.state (kernel.current cpu) ≠ .runnable) (pcb : PcbRef) :
    queuedCount next pcb ≤ queuedCount kernel pcb := by
  obtain ⟨after, picked, schedEq, switched⟩ := Arch.sched_eq_some.mp scheduled
  obtain ⟨selected, queue, se, selectedEq, proc, -, decided⟩ := SchedulerCFS.sched_eq_some.mp schedEq
  have same := SameProcs.schedSelect selectedEq
  have kept : queuedCount after pcb = queuedCount selected pcb := by
    rcases SchedulerCFS.schedDecide_cases decided with ⟨-, -, rfl⟩ | ⟨runnable, -⟩ | ⟨runnable, -⟩
    · exact congrFun (queuedCount_refreshBudget _ _ _ _) pcb
    all_goals
      rw [same.current, same.state] at runnable
      exact absurd runnable stopped
  have fewer := queuedCount_schedSelect_le selectedEq pcb
  rcases switched with ⟨-, rfl⟩ | ⟨_, _, _, _, rfl⟩
  · omega
  · rw [queuedCount_setCurrent]
    omega

/-- The exiting process gains no entry: wakeups skip it, and `sched` does not re-enqueue it. -/
theorem queuedCount_exit_le {kernel next : Kernel} {cpu exitCode : Nat}
    (exited : ProcessManager.exit kernel cpu exitCode = some next) :
    queuedCount next (kernel.current cpu) ≤ queuedCount kernel (kernel.current cpu) := by
  obtain ⟨woke, kept, wokenEq, notified, notifiedEq, scheduled⟩ := ProcessManager.exit_eq_some.mp exited
  obtain ⟨same, queues⟩ := exitNotify_same notifiedEq
  have wakes := (Wakes.of_wakeupWaiters wokenEq).trans ((SameProcs.updPcb woke (kernel.current cpu)
    (fun p => { p with waitQueue := kept }) fun _ => ⟨rfl, rfl⟩).trans same).wakes
  have exitedState : ((kernel.setState (kernel.current cpu) (.exited exitCode)).state (kernel.current cpu)).isBlocked =
      false := by simp [ProcessState.isBlocked]
  -- the waiters' wakeups leave the exited process and its entries alone
  have woken := @ProcessManager.wakeupWaiters_induction _
    (fun woke => (woke.state (kernel.current cpu)).isBlocked = false ∧
      queuedCount woke (kernel.current cpu) = queuedCount kernel (kernel.current cpu))
    (fun before first => ⟨(Wakes.of_wakeup first).state_of_not_blocked before.1 ▸ before.1,
      (queuedCount_wakeup_of_not_blocked first before.1).trans before.2⟩) _ _ _ _ ⟨exitedState, rfl⟩ wokenEq
  have stopped : notified.state (notified.current cpu) ≠ .runnable := by
    rw [wakes.current, Kernel.setState_current, wakes.state_of_not_blocked exitedState]
    simp
  have notifiedCount : queuedCount notified (kernel.current cpu) = queuedCount woke (kernel.current cpu) := by
    simp only [queuedCount, same.maxCpuNum, queues]
    rfl
  have fewer := queuedCount_sched_le scheduled stopped (kernel.current cpu)
  omega

/-- A step of a `wakeup` call keeps its ghost counts consistent with its phase. -/
theorem WakeupCall.Consistent.step {call : WakeupCall} {pcb : PcbRef} {kernel next : Kernel}
    {phase : WakeupPhase} (consistent : call.Consistent)
    (stepped : wakeupStep kernel pcb call.phase = some (next, phase)) :
    WakeupCall.Consistent
      { phase := phase
        woken := call.woken + wokenUp pcb kernel next
        enqueues := call.enqueues + if call.phase.isEnqueue then 1 else 0 } := by
  obtain ⟨phase₀, woken, enqueues⟩ := call
  unfold WakeupCall.Consistent at consistent ⊢
  cases phase₀ with
  | check =>
      simp only [wakeupStep, Option.some.injEq, Prod.mk.injEq] at stepped
      obtain ⟨rfl, rfl⟩ := stepped
      simp only [wokenUp_self, WakeupPhase.isEnqueue, Bool.false_eq_true, ite_false] at consistent ⊢
      unfold wakeupCheck
      dsimp only
      split_ifs <;> dsimp only <;> omega
  | recheck =>
      simp only [wakeupStep, wakeupRecheck, Option.some.injEq] at stepped
      simp only [WakeupPhase.isEnqueue, Bool.false_eq_true, ite_false] at consistent ⊢
      split_ifs at stepped with blocked exited <;> cases stepped
      · simp [wokenUp, blocked]
        omega
      all_goals simp only [wokenUp_self]; omega
  | enqueue =>
      simp only [wakeupStep, Option.map_eq_some', Prod.mk.injEq] at stepped
      obtain ⟨enqueued, enqueuedEq, rfl, rfl⟩ := stepped
      have unchanged : wokenUp pcb kernel enqueued = 0 := by
        rw [wokenUp, (schedEnqueue_counts enqueuedEq).1.state]
        exact if_neg fun ⟨blocked, runnable⟩ => by simp [runnable] at blocked
      simp only [unchanged, WakeupPhase.isEnqueue, ite_true] at consistent ⊢
      omega
  | done result => simp [wakeupStep] at stepped

/-- Updating one call changes a sum over the calls by as much. -/
theorem sum_update_call {n i : Nat} (inRange : i < n) (calls : Nat → WakeupCall) (call : WakeupCall)
    (field : WakeupCall → Nat) :
    (∑ other in range n, field (Function.update calls i call other)) + field (calls i) =
      (∑ other in range n, field (calls other)) + field call := by
  simpa using sum_range_change inRange (fun other => field (calls other))
    (fun other => field (Function.update calls i call other)) fun other different => by simp [different]

/-- What the race keeps for a non-idle process that started with `queued` entries. -/
structure WakeupRace.Inv (pcb : PcbRef) (n queued : Nat) (race : WakeupRace) : Prop where
  consistent : ∀ i < n, (race.calls i).Consistent
  transitions : race.transitions = ∑ i in range n, (race.calls i).woken
  notIdle : (race.kernel.pcbs pcb).pid ≠ 0
  bounded : queuedCount race.kernel pcb ≤ queued + ∑ i in range n, (race.calls i).enqueues

theorem WakeupRace.Inv.step {pcb : PcbRef} {n queued : Nat} {race next : WakeupRace}
    (inv : race.Inv pcb n queued) (stepped : WakeupRace.Step pcb n race next) : next.Inv pcb n queued := by
  cases stepped with
  | @call i inRange next stepped =>
      simp only [WakeupRace.callStep, Option.map_eq_some'] at stepped
      obtain ⟨⟨kernel, phase⟩, stepped, rfl⟩ := stepped
      obtain ⟨wakes, counted⟩ := wakeupStep_counts inv.notIdle stepped
      have rise : queuedRise pcb race.kernel kernel = if (race.calls i).phase.isEnqueue then 1 else 0 := by
        rw [queuedRise, counted, Nat.add_sub_cancel_left]
      dsimp only
      rw [rise]
      have woken := sum_update_call inRange race.calls
        { phase := phase
          woken := (race.calls i).woken + wokenUp pcb race.kernel kernel
          enqueues := (race.calls i).enqueues + if (race.calls i).phase.isEnqueue then 1 else 0 }
      have wokenSum := woken WakeupCall.woken
      have enqueuesSum := woken WakeupCall.enqueues
      have counts := inv.transitions
      have bounded := inv.bounded
      dsimp only at wokenSum enqueuesSum
      refine ⟨fun other otherInRange => ?_, by dsimp only; omega, by rw [wakes.pid]; exact inv.notIdle,
        by dsimp only; omega⟩
      by_cases here : other = i
      · subst here
        simpa using (inv.consistent other otherInRange).step stepped
      · simpa [here] using inv.consistent other otherInRange
  | @markSleep cpu interruptable running =>
      subst running
      exact ⟨inv.consistent, by simpa [wokenUp_markSleep] using inv.transitions,
        by rw [pid_markSleep]; exact inv.notIdle, by rw [queuedCount_markSleep]; exact inv.bounded⟩
  | @exit cpu exitCode next running exited =>
      subst running
      exact ⟨inv.consistent, by simpa [wokenUp_exit exited] using inv.transitions,
        by rw [pid_exit exited]; exact inv.notIdle, (queuedCount_exit_le exited).trans inv.bounded⟩

end DragonOS
