import DragonSched.System.QueueKeys

namespace DragonOS

/-- The selection takes the first entry; the loop's `dequeue` pops the next one. -/
theorem schedSelect_entries {kernel selected : Kernel} {cpu : Nat} {queue : QueueRef} {se : Entry}
    (selectedEq : SchedulerCFS.schedSelect kernel cpu = some (selected, queue, se)) :
    cpu < kernel.maxCpuNum ∧ queue = ⟨.root, cpu⟩ ∧ SameProcs kernel selected ∧
      (∀ other, other ≠ ⟨.root, cpu⟩ → selected.queues other = kernel.queues other) ∧
      ∃ rest, (kernel.queues ⟨.root, cpu⟩).entries = se :: rest ∧
        (selected.queues ⟨.root, cpu⟩).entries = rest.tail := by
  obtain ⟨inRange, rfl, rest, dequeued, rfl⟩ := SchedulerCFS.schedSelect_eq_some.mp selectedEq
  have flagged := SameProcs.updFlags kernel (kernel.current cpu) (·.remove .needSchedule)
  refine ⟨inRange, rfl, (flagged.trans (SameProcs.updQueue _ _ _)).trans (SameProcs.updQueue _ _ _),
    fun other elsewhere => by simp [elsewhere], rest.entries, (CFSQueue.dequeueSe_eq_some dequeued).1, ?_⟩
  simp only [Kernel.updQueue_queues, ite_true]
  rcases CFSQueue.dequeue_entries rest with ⟨empty, same, -⟩ | popped
  · rw [same, empty]
    rfl
  · rw [popped]
    rfl

/-- On an empty queue `dequeue_se` leaves its result unassigned, so the selection has none. -/
theorem schedSelect_empty {kernel : Kernel} {cpu : Nat}
    (empty : (kernel.queues ⟨.root, cpu⟩).entries = []) : SchedulerCFS.schedSelect kernel cpu = none := by
  cases selectedEq : SchedulerCFS.schedSelect kernel cpu with
  | none => rfl
  | some selection =>
      obtain ⟨-, -, -, -, rest, queued, -⟩ := schedSelect_entries selectedEq
      rw [empty] at queued
      cases queued

/-- `sched` on two or more entries loses the second; on none it panics. -/
theorem sched_loses_second_entry {kernel : Kernel} {cpu : Nat} :
    ((kernel.queues ⟨.root, cpu⟩).entries = [] → SchedulerCFS.sched kernel cpu = none) ∧
      ∀ (proc : PcbRef) (second : Entry) (rest : List Entry) (next : Kernel) (picked : Option Entry),
        (kernel.queues ⟨.root, cpu⟩).entries = .pcb proc :: second :: rest →
        second ∉ Entry.pcb proc :: rest → second ≠ .pcb (kernel.current cpu) →
        SchedulerCFS.sched kernel cpu = some (next, picked) →
        picked ≠ some second ∧ second ∉ (next.queues ⟨.root, cpu⟩).entries := by
  refine ⟨fun empty => ?_, fun proc second rest next picked queued once notRunning scheduled => ?_⟩
  · simp [SchedulerCFS.sched, schedSelect_empty empty]
  obtain ⟨selected, queue, se, selectedEq, found, foundEq, decided⟩ :=
    SchedulerCFS.sched_eq_some.mp scheduled
  obtain ⟨inRange, rfl, same, -, popped, queuedAgain, remaining⟩ := schedSelect_entries selectedEq
  rw [queued, List.cons.injEq] at queuedAgain
  obtain ⟨rfl, rfl⟩ := queuedAgain
  obtain rfl : proc = found := Option.some.inj foundEq
  have fresh : second ≠ .pcb proc := fun equal => once (equal ▸ List.mem_cons_self _ _)
  have gone : second ∉ (selected.queues ⟨.root, cpu⟩).entries := by
    rw [remaining]
    exact fun later => once (List.mem_cons_of_mem _ later)
  have notPicked : some (Entry.pcb proc) ≠ some second := fun picked => fresh (Option.some.inj picked).symm
  rw [same.current] at decided
  rcases SchedulerCFS.schedDecide_cases decided with
    ⟨-, rfl, rfl⟩ | ⟨-, -, rfl, requeued, requeuedEq, rfl⟩ | ⟨-, -, rfl, pushedEq⟩
  · exact ⟨notPicked, by rwa [entries_refreshBudget]⟩
  · refine ⟨notPicked, fun member => ?_⟩
    rw [entries_refreshBudget] at member
    exact ((schedEnqueue_counts requeuedEq).2.2 cpu (same.maxCpuNum ▸ inRange) second member).elim
      gone notRunning
  · refine ⟨Option.noConfusion, fun member => ?_⟩
    have refreshed := SameProcs.refreshBudget selected ⟨.root, cpu⟩ ⟨.root, cpu⟩
      (selected.pcbs (kernel.current cpu)).schedInfo.priority
    exact ((schedEnqueue_counts pushedEq).2.2 cpu (refreshed.maxCpuNum.trans same.maxCpuNum ▸ inRange)
      second member).elim (fun old => gone (by rwa [entries_refreshBudget] at old)) fresh

/-- `oneCpu`'s CPU 0 queue with processes 4 and 5; the running process 3. -/
def twoQueued : Kernel :=
  { oneCpu with
    pcbs := fun pcb => if pcb = 5 then (samplePcb 4 0 .runnable).withSched 2 none else oneCpu.pcbs pcb
    queues := fun queue =>
      if queue = ⟨.root, 0⟩ then
        { CFSQueue.new 1 with lockedQueue := (RBTree.new.insert 1 (.pcb 4)).insert 2 (.pcb 5) }
      else oneCpu.queues queue }

theorem twoQueued_loses_second_entry :
    SchedulerCFS.sched oneCpu 0 = none ∧
      ((SchedulerCFS.sched twoQueued 0).getD (twoQueued, none)).2 ≠ some (.pcb 5) ∧
      Entry.pcb 5 ∉ (((SchedulerCFS.sched twoQueued 0).getD (twoQueued, none)).1.queues ⟨.root, 0⟩).entries :=
  ⟨(@sched_loses_second_entry oneCpu 0).1 (by decide),
    (@sched_loses_second_entry twoQueued 0).2 4 (.pcb 5) [] _ _ (by decide) (by decide) (by decide) rfl⟩

/-- The selection never descends into a group entity's queue, and `sched` panics. -/
theorem sched_stops_at_group_entity {kernel : Kernel} {cpu : Nat} {se : SeRef} {rest : List Entry}
    (queued : (kernel.queues ⟨.root, cpu⟩).entries = .se se :: rest)
    (noProcess : (kernel.ses se).pcb = none) :
    SchedulerCFS.sched kernel cpu = none ∧
      ∀ selected queue picked, SchedulerCFS.schedSelect kernel cpu = some (selected, queue, picked) →
        picked = .se se ∧ ∀ other, other ≠ ⟨.root, cpu⟩ → selected.queues other = kernel.queues other := by
  have taken : ∀ selected queue picked,
      SchedulerCFS.schedSelect kernel cpu = some (selected, queue, picked) →
        picked = .se se ∧ ∀ other, other ≠ ⟨.root, cpu⟩ → selected.queues other = kernel.queues other := by
    intro selected queue picked selectedEq
    obtain ⟨-, -, -, elsewhere, rest, queuedAgain, -⟩ := schedSelect_entries selectedEq
    rw [queued, List.cons.injEq] at queuedAgain
    exact ⟨queuedAgain.1.symm, elsewhere⟩
  refine ⟨?_, taken⟩
  cases scheduled : SchedulerCFS.sched kernel cpu with
  | none => rfl
  | some result =>
      obtain ⟨selected, queue, picked, selectedEq, proc, procEq, -⟩ :=
        SchedulerCFS.sched_eq_some.mp scheduled
      obtain ⟨rfl, -⟩ := taken _ _ _ selectedEq
      rw [Kernel.entryPcb, (schedSelect_entries selectedEq).2.2.1.ses, noProcess] at procEq
      cases procEq

/-- `oneCpu` with group 1's entity on CPU 0's queue, and process 4 below it. -/
def nestedGroup : Kernel :=
  { oneCpu with
    ses := fun se =>
      if se = 2 then { SchedEntity.new with cfsRq := some ⟨.root, 0⟩, myQ := some ⟨.group 1, 0⟩ }
      else SchedEntity.new
    queues := fun queue =>
      if queue = ⟨.root, 0⟩ then { CFSQueue.new 1 with lockedQueue := RBTree.new.insert 0 (.se 2) }
      else if queue = ⟨.group 1, 0⟩ then
        { CFSQueue.new 1 with lockedQueue := RBTree.new.insert 1 (.pcb 4) }
      else oneCpu.queues queue }

theorem nestedGroup_stops_at_group_entity :
    (nestedGroup.ses 2).myQ = some ⟨.group 1, 0⟩ ∧
      (nestedGroup.queues ⟨.group 1, 0⟩).entries = [.pcb 4] ∧
      SchedulerCFS.sched nestedGroup 0 = none ∧
      ∀ selected queue picked, SchedulerCFS.schedSelect nestedGroup 0 = some (selected, queue, picked) →
        picked = .se 2 ∧ ∀ other, other ≠ ⟨.root, 0⟩ → selected.queues other = nestedGroup.queues other :=
  ⟨rfl, by decide, @sched_stops_at_group_entity nestedGroup 0 2 [] (by decide) rfl⟩

end DragonOS
