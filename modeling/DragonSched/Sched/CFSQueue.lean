import DragonSched.Process.Records
import DragonSched.Sched.RBTree

namespace DragonOS

/-- `CFSQueue`: the running process's time slice, the keyed queue, the idle process. -/
structure CFSQueue where
  cpuExecProcJiffies : BitVec 64
  lockedQueue : RBTree Entry
  idlePcb : PcbRef

namespace CFSQueue

def new (idlePcb : PcbRef) : CFSQueue where
  cpuExecProcJiffies := 0#64
  lockedQueue := RBTree.new
  idlePcb := idlePcb

/-- `CFSQueue::enqueue`: skips the idle process, keys others by virtual runtime. -/
def enqueue (pcbs : PcbRef → ProcessControlBlock) (queue : CFSQueue) (pcb : PcbRef) : CFSQueue :=
  if (pcbs pcb).pid = 0 then queue
  else { queue with
    lockedQueue := queue.lockedQueue.insert (pcbs pcb).schedInfo.virtualRuntime (.pcb pcb) }

/-- `CFSQueue::enqueue_se`: keyed by the entity's own `virtual_runtime`, with no idle filter. -/
def enqueueSe (ses : SeRef → SchedEntity) (queue : CFSQueue) (se : SeRef) : CFSQueue :=
  { queue with lockedQueue := queue.lockedQueue.insert (ses se).virtualRuntime (.se se) }

/-- `CFSQueue::dequeue`: the first entry, or the idle process when the queue is empty. -/
def dequeue (queue : CFSQueue) : Entry × CFSQueue :=
  match queue.lockedQueue.popFirst with
  | some (first, rest) => (first.2, { queue with lockedQueue := rest })
  | none => (.pcb queue.idlePcb, queue)

/-- `CFSQueue::dequeue_se`: the first entry; none on an empty queue. -/
def dequeueSe (queue : CFSQueue) : Option (Entry × CFSQueue) :=
  queue.lockedQueue.popFirst.map fun popped => (popped.1.2, { queue with lockedQueue := popped.2 })

/-- `CFSQueue::min_vruntime`: the current virtual runtime of the first entry. -/
def minVruntime (virtualRuntime : Entry → Int) (queue : RBTree Entry) : Option Int :=
  queue.getFirst.map fun first => virtualRuntime first.2

/-- `CFSQueue::get_cfs_queue_size`. -/
def getCfsQueueSize (queue : RBTree Entry) : Nat := queue.len

/-- `SchedulerCFS::update_cpu_exec_proc_jiffies`: the priority is not used yet. -/
def updateCpuExecProcJiffies (_priority : SchedPriority) (queue : CFSQueue) : CFSQueue :=
  { queue with cpuExecProcJiffies := 10#64 }

/-- The entries of the queue, in dequeue order. -/
def entries (queue : CFSQueue) : List Entry := queue.lockedQueue.entries.map Prod.snd

@[simp] theorem new_entries (idlePcb : PcbRef) : (new idlePcb).entries = [] := rfl

theorem enqueue_entries (pcbs : PcbRef → ProcessControlBlock) (queue : CFSQueue) (pcb : PcbRef) :
    (queue.enqueue pcbs pcb).entries.Perm
      (if (pcbs pcb).pid = 0 then queue.entries else .pcb pcb :: queue.entries) := by
  unfold enqueue entries
  split
  · exact List.Perm.refl _
  · exact (insertEntry_perm _ _ _).map Prod.snd

theorem enqueueSe_entries (ses : SeRef → SchedEntity) (queue : CFSQueue) (se : SeRef) :
    (queue.enqueueSe ses se).entries.Perm (.se se :: queue.entries) :=
  (insertEntry_perm _ _ _).map Prod.snd

theorem dequeue_entries (queue : CFSQueue) :
    queue.entries = [] ∧ (queue.dequeue).2 = queue ∧ (queue.dequeue).1 = .pcb queue.idlePcb ∨
      queue.entries = (queue.dequeue).1 :: (queue.dequeue).2.entries := by
  unfold dequeue entries
  split
  · rename_i first rest popped
    exact .inr (by simp [RBTree.popFirst_eq_some.mp popped])
  · rename_i empty
    exact .inl ⟨by simp [RBTree.popFirst_eq_none.mp empty], rfl, rfl⟩

theorem dequeueSe_eq_some {queue rest : CFSQueue} {entry : Entry} :
    queue.dequeueSe = some (entry, rest) →
      queue.entries = entry :: rest.entries ∧ rest.cpuExecProcJiffies = queue.cpuExecProcJiffies ∧
        rest.idlePcb = queue.idlePcb := by
  unfold dequeueSe entries
  cases popped : queue.lockedQueue.popFirst with
  | none => simp
  | some first =>
      rintro ⟨⟩
      simp [RBTree.popFirst_eq_some.mp popped]

theorem dequeue_locked (queue : CFSQueue) :
    queue.dequeue.2.lockedQueue.entries = queue.lockedQueue.entries.tail := by
  unfold dequeue
  split
  · rename_i popped
    simp [RBTree.popFirst_eq_some.mp popped]
  · rename_i empty
    simp [RBTree.popFirst_eq_none.mp empty]

theorem dequeueSe_locked {queue rest : CFSQueue} {entry : Entry}
    (dequeued : queue.dequeueSe = some (entry, rest)) :
    ∃ key, queue.lockedQueue.entries = (key, entry) :: rest.lockedQueue.entries := by
  unfold dequeueSe at dequeued
  cases popped : queue.lockedQueue.popFirst with
  | none => simp [popped] at dequeued
  | some first =>
      simp only [popped, Option.map_some', Option.some.injEq, Prod.mk.injEq] at dequeued
      obtain ⟨rfl, rfl⟩ := dequeued
      exact ⟨first.1.1, RBTree.popFirst_eq_some.mp popped⟩

end CFSQueue

end DragonOS
