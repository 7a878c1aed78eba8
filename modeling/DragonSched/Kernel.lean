import DragonSched.Sched.CFSQueue

namespace DragonOS

/-- The state the process manager and the CFS scheduler share. -/
structure Kernel where
  /-- `MAX_CPU_NUM`: the length of every scheduler's `cpu_queue` vector. -/
  maxCpuNum : Nat
  pcbs : PcbRef → ProcessControlBlock
  ses : SeRef → SchedEntity
  groups : GroupRef → TaskGroup
  queues : QueueRef → CFSQueue
  /-- `ProcessManager::current_pcb()` on each CPU. -/
  current : Nat → PcbRef
  /-- `ProcessManager::idle_pcb()`. -/
  idlePcb : Nat → PcbRef
  /-- Whether `CFS_SCHEDULER_PTR` is set; its queues are those of `SchedId.root`. -/
  cfsSchedulerPtr : Bool
  /-- `ALL_PROCESS`, `None` until `ProcessManager::init`. -/
  allProcess : Option (Pid → Option PcbRef)
  /-- `ALL_PROCESS_GROUP`. -/
  allProcessGroup : Option (Pid → Option GroupRef)
  /-- `PROCESS_GROUP_MANAGER`. -/
  processGroupManager : Pid → Option (List Pid)
  /-- `NEXT_PID` of `generate_pid`, an `AtomicUsize`. -/
  nextPid : Pid
  /-- `INIT_FLAG` of `ProcessManager::init`. -/
  initFlag : Bool
  /-- `__PROCESS_MANAGEMENT_INIT_DONE`. -/
  initDone : Bool
  /-- The addresses the next `Arc::new` of each kind returns. -/
  nextPcb : PcbRef
  nextSe : SeRef
  nextGroup : GroupRef

namespace Kernel

def updPcb (kernel : Kernel) (pcb : PcbRef) (change : ProcessControlBlock → ProcessControlBlock) :
    Kernel :=
  { kernel with pcbs := Function.update kernel.pcbs pcb (change (kernel.pcbs pcb)) }

def updQueue (kernel : Kernel) (queue : QueueRef) (change : CFSQueue → CFSQueue) : Kernel :=
  { kernel with queues := Function.update kernel.queues queue (change (kernel.queues queue)) }

def updSe (kernel : Kernel) (se : SeRef) (change : SchedEntity → SchedEntity) : Kernel :=
  { kernel with ses := Function.update kernel.ses se (change (kernel.ses se)) }

def setCurrent (kernel : Kernel) (cpu : Nat) (pcb : PcbRef) : Kernel :=
  { kernel with current := Function.update kernel.current cpu pcb }

/-- `ProcessSchedulerInfo::set_state`. -/
def setState (kernel : Kernel) (pcb : PcbRef) (state : ProcessState) : Kernel :=
  kernel.updPcb pcb fun p => { p with schedInfo := { p.schedInfo with state := state } }

/-- `ProcessSchedulerInfo::set_virtual_runtime`. -/
def setVirtualRuntime (kernel : Kernel) (pcb : PcbRef) (virtualRuntime : Int) : Kernel :=
  kernel.updPcb pcb fun p =>
    { p with schedInfo := { p.schedInfo with virtualRuntime := virtualRuntime } }

/-- `flags().insert(..)` and `flags().remove(..)`. -/
def updFlags (kernel : Kernel) (pcb : PcbRef) (change : ProcessFlags → ProcessFlags) : Kernel :=
  kernel.updPcb pcb fun p => { p with flags := change p.flags }

/-- The current state of a process. -/
def state (kernel : Kernel) (pcb : PcbRef) : ProcessState := (kernel.pcbs pcb).schedInfo.state

/-- The current virtual runtime of a process. -/
def vruntime (kernel : Kernel) (pcb : PcbRef) : Int := (kernel.pcbs pcb).schedInfo.virtualRuntime

/-- `se.pcb()` of an entry: a process entry is its own process. -/
def entryPcb (kernel : Kernel) : Entry → Option PcbRef
  | .pcb pcb => some pcb
  | .se se => (kernel.ses se).pcb

/-- The virtual runtime `min_vruntime` reads off an entry. -/
def entryVruntime (kernel : Kernel) : Entry → Int
  | .pcb pcb => kernel.vruntime pcb
  | .se se => (kernel.ses se).virtualRuntime

/-- `self.cpu_queue[cpu]` of a scheduler; out of the vector's range it panics. -/
def cpuQueue (kernel : Kernel) (sched : SchedId) (cpu : Nat) : Option QueueRef :=
  if cpu < kernel.maxCpuNum then some ⟨sched, cpu⟩ else none

section Frame

variable (kernel : Kernel)

@[simp] theorem updPcb_pcbs (pcb : PcbRef) (change) (other : PcbRef) :
    (kernel.updPcb pcb change).pcbs other =
      if other = pcb then change (kernel.pcbs pcb) else kernel.pcbs other := by
  simp [updPcb, Function.update_apply]

@[simp] theorem updQueue_queues (queue : QueueRef) (change) (other : QueueRef) :
    (kernel.updQueue queue change).queues other =
      if other = queue then change (kernel.queues queue) else kernel.queues other := by
  simp [updQueue, Function.update_apply]

@[simp] theorem updSe_ses (se : SeRef) (change) (other : SeRef) :
    (kernel.updSe se change).ses other =
      if other = se then change (kernel.ses se) else kernel.ses other := by
  simp [updSe, Function.update_apply]

@[simp] theorem setCurrent_current (cpu : Nat) (pcb : PcbRef) (other : Nat) :
    (kernel.setCurrent cpu pcb).current other = if other = cpu then pcb else kernel.current other := by
  simp [setCurrent, Function.update_apply]

@[simp] theorem updPcb_queues (pcb change) : (kernel.updPcb pcb change).queues = kernel.queues := rfl
@[simp] theorem updPcb_ses (pcb change) : (kernel.updPcb pcb change).ses = kernel.ses := rfl
@[simp] theorem updPcb_current (pcb change) : (kernel.updPcb pcb change).current = kernel.current := rfl
@[simp] theorem updPcb_maxCpuNum (pcb change) :
    (kernel.updPcb pcb change).maxCpuNum = kernel.maxCpuNum := rfl
@[simp] theorem updPcb_allProcess (pcb change) :
    (kernel.updPcb pcb change).allProcess = kernel.allProcess := rfl
@[simp] theorem updPcb_initDone (pcb change) :
    (kernel.updPcb pcb change).initDone = kernel.initDone := rfl

@[simp] theorem updQueue_pcbs (queue change) : (kernel.updQueue queue change).pcbs = kernel.pcbs := rfl
@[simp] theorem updQueue_ses (queue change) : (kernel.updQueue queue change).ses = kernel.ses := rfl
@[simp] theorem updQueue_current (queue change) :
    (kernel.updQueue queue change).current = kernel.current := rfl
@[simp] theorem updQueue_maxCpuNum (queue change) :
    (kernel.updQueue queue change).maxCpuNum = kernel.maxCpuNum := rfl
@[simp] theorem updQueue_allProcess (queue change) :
    (kernel.updQueue queue change).allProcess = kernel.allProcess := rfl

@[simp] theorem updSe_pcbs (se change) : (kernel.updSe se change).pcbs = kernel.pcbs := rfl
@[simp] theorem updSe_queues (se change) : (kernel.updSe se change).queues = kernel.queues := rfl
@[simp] theorem updSe_current (se change) : (kernel.updSe se change).current = kernel.current := rfl
@[simp] theorem updSe_maxCpuNum (se change) :
    (kernel.updSe se change).maxCpuNum = kernel.maxCpuNum := rfl

@[simp] theorem setCurrent_pcbs (cpu pcb) : (kernel.setCurrent cpu pcb).pcbs = kernel.pcbs := rfl
@[simp] theorem setCurrent_queues (cpu pcb) : (kernel.setCurrent cpu pcb).queues = kernel.queues := rfl
@[simp] theorem setCurrent_ses (cpu pcb) : (kernel.setCurrent cpu pcb).ses = kernel.ses := rfl
@[simp] theorem setCurrent_maxCpuNum (cpu pcb) :
    (kernel.setCurrent cpu pcb).maxCpuNum = kernel.maxCpuNum := rfl
@[simp] theorem setCurrent_allProcess (cpu pcb) :
    (kernel.setCurrent cpu pcb).allProcess = kernel.allProcess := rfl

@[simp] theorem state_setState (pcb : PcbRef) (state : ProcessState) (other : PcbRef) :
    (kernel.setState pcb state).state other = if other = pcb then state else kernel.state other := by
  by_cases same : other = pcb <;> simp [setState, Kernel.state, same]

@[simp] theorem state_setVirtualRuntime (pcb : PcbRef) (value : Int) (other : PcbRef) :
    (kernel.setVirtualRuntime pcb value).state other = kernel.state other := by
  by_cases same : other = pcb <;> simp [setVirtualRuntime, Kernel.state, same]

@[simp] theorem state_updFlags (pcb : PcbRef) (change) (other : PcbRef) :
    (kernel.updFlags pcb change).state other = kernel.state other := by
  by_cases same : other = pcb <;> simp [updFlags, Kernel.state, same]

@[simp] theorem state_updQueue (queue change) (pcb : PcbRef) :
    (kernel.updQueue queue change).state pcb = kernel.state pcb := rfl

@[simp] theorem state_setCurrent (cpu current) (pcb : PcbRef) :
    (kernel.setCurrent cpu current).state pcb = kernel.state pcb := rfl

@[simp] theorem pid_setState (pcb : PcbRef) (state : ProcessState) (other : PcbRef) :
    ((kernel.setState pcb state).pcbs other).pid = (kernel.pcbs other).pid := by
  by_cases same : other = pcb <;> simp [setState, same]

@[simp] theorem waitQueue_setState (pcb : PcbRef) (state : ProcessState) (other : PcbRef) :
    ((kernel.setState pcb state).pcbs other).waitQueue = (kernel.pcbs other).waitQueue := by
  by_cases same : other = pcb <;> simp [setState, same]

@[simp] theorem vruntime_setVirtualRuntime (pcb : PcbRef) (value : Int) (other : PcbRef) :
    (kernel.setVirtualRuntime pcb value).vruntime other =
      if other = pcb then value else kernel.vruntime other := by
  by_cases same : other = pcb <;> simp [setVirtualRuntime, Kernel.vruntime, same]

@[simp] theorem entryVruntime_setVirtualRuntime (pcb : PcbRef) (value : Int) (entry : Entry) :
    (kernel.setVirtualRuntime pcb value).entryVruntime entry =
      if entry = .pcb pcb then value else kernel.entryVruntime entry := by
  cases entry with
  | pcb other => simp [entryVruntime]
  | se se => simp [entryVruntime, setVirtualRuntime]

/-- A change of one process that keeps its virtual runtime keeps every entry's. -/
theorem entryVruntime_updPcb (pcb : PcbRef) {change : ProcessControlBlock → ProcessControlBlock}
    (keeps : ∀ p, (change p).schedInfo.virtualRuntime = p.schedInfo.virtualRuntime) :
    (kernel.updPcb pcb change).entryVruntime = kernel.entryVruntime := by
  funext entry
  cases entry with
  | pcb other => by_cases same : other = pcb <;> simp [entryVruntime, vruntime, same, keeps]
  | se se => rfl

@[simp] theorem entryVruntime_setState (pcb : PcbRef) (state : ProcessState) :
    (kernel.setState pcb state).entryVruntime = kernel.entryVruntime :=
  kernel.entryVruntime_updPcb pcb fun _ => rfl

@[simp] theorem entryVruntime_updFlags (pcb : PcbRef) (change) :
    (kernel.updFlags pcb change).entryVruntime = kernel.entryVruntime :=
  kernel.entryVruntime_updPcb pcb fun _ => rfl

@[simp] theorem entryVruntime_updQueue (queue change) :
    (kernel.updQueue queue change).entryVruntime = kernel.entryVruntime := rfl

@[simp] theorem entryVruntime_setCurrent (cpu pcb) :
    (kernel.setCurrent cpu pcb).entryVruntime = kernel.entryVruntime := rfl

@[simp] theorem vruntime_setState (pcb : PcbRef) (state : ProcessState) (other : PcbRef) :
    (kernel.setState pcb state).vruntime other = kernel.vruntime other :=
  congrFun (kernel.entryVruntime_setState pcb state) (.pcb other)

@[simp] theorem vruntime_updFlags (pcb : PcbRef) (change) (other : PcbRef) :
    (kernel.updFlags pcb change).vruntime other = kernel.vruntime other :=
  congrFun (kernel.entryVruntime_updFlags pcb change) (.pcb other)

@[simp] theorem vruntime_updQueue (queue change) (other : PcbRef) :
    (kernel.updQueue queue change).vruntime other = kernel.vruntime other := rfl

@[simp] theorem pid_setVirtualRuntime (pcb : PcbRef) (value : Int) (other : PcbRef) :
    ((kernel.setVirtualRuntime pcb value).pcbs other).pid = (kernel.pcbs other).pid := by
  by_cases same : other = pcb <;> simp [setVirtualRuntime, same]

@[simp] theorem pid_updFlags (pcb : PcbRef) (change) (other : PcbRef) :
    ((kernel.updFlags pcb change).pcbs other).pid = (kernel.pcbs other).pid := by
  by_cases same : other = pcb <;> simp [updFlags, same]

@[simp] theorem onCpu_setState (pcb : PcbRef) (state : ProcessState) (other : PcbRef) :
    ((kernel.setState pcb state).pcbs other).schedInfo.onCpu = (kernel.pcbs other).schedInfo.onCpu := by
  by_cases same : other = pcb <;> simp [setState, same]

@[simp] theorem onCpu_setVirtualRuntime (pcb : PcbRef) (value : Int) (other : PcbRef) :
    ((kernel.setVirtualRuntime pcb value).pcbs other).schedInfo.onCpu =
      (kernel.pcbs other).schedInfo.onCpu := by
  by_cases same : other = pcb <;> simp [setVirtualRuntime, same]

@[simp] theorem onCpu_updFlags (pcb : PcbRef) (change) (other : PcbRef) :
    ((kernel.updFlags pcb change).pcbs other).schedInfo.onCpu = (kernel.pcbs other).schedInfo.onCpu := by
  by_cases same : other = pcb <;> simp [updFlags, same]

@[simp] theorem setState_queues (pcb state) : (kernel.setState pcb state).queues = kernel.queues := rfl
@[simp] theorem setState_current (pcb state) :
    (kernel.setState pcb state).current = kernel.current := rfl
@[simp] theorem setState_ses (pcb state) : (kernel.setState pcb state).ses = kernel.ses := rfl
@[simp] theorem setState_maxCpuNum (pcb state) :
    (kernel.setState pcb state).maxCpuNum = kernel.maxCpuNum := rfl
@[simp] theorem setVirtualRuntime_queues (pcb value) :
    (kernel.setVirtualRuntime pcb value).queues = kernel.queues := rfl
@[simp] theorem setVirtualRuntime_current (pcb value) :
    (kernel.setVirtualRuntime pcb value).current = kernel.current := rfl
@[simp] theorem setVirtualRuntime_maxCpuNum (pcb value) :
    (kernel.setVirtualRuntime pcb value).maxCpuNum = kernel.maxCpuNum := rfl
@[simp] theorem updFlags_queues (pcb change) : (kernel.updFlags pcb change).queues = kernel.queues := rfl
@[simp] theorem updFlags_current (pcb change) :
    (kernel.updFlags pcb change).current = kernel.current := rfl
@[simp] theorem updFlags_maxCpuNum (pcb change) :
    (kernel.updFlags pcb change).maxCpuNum = kernel.maxCpuNum := rfl

theorem cpuQueue_eq_some {sched : SchedId} {cpu : Nat} {queue : QueueRef} :
    kernel.cpuQueue sched cpu = some queue ↔ cpu < kernel.maxCpuNum ∧ queue = ⟨sched, cpu⟩ := by
  unfold cpuQueue
  split <;> simp_all [eq_comm]

end Frame

end Kernel

end DragonOS
