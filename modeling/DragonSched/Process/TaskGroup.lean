import DragonSched.Process.Create

namespace DragonOS

namespace TaskGroup

/-- `TaskGroup::new` under `ptg`: fresh entities per CPU, empty queues, no children. -/
def new (kernel : Kernel) (ptg : GroupRef) : Kernel × GroupRef :=
  let group := kernel.nextGroup
  let first := kernel.nextSe
  ({ kernel with
      ses := fun se =>
        if first ≤ se ∧ se < first + kernel.maxCpuNum then SchedEntity.new else kernel.ses se
      nextSe := first + kernel.maxCpuNum
      groups := Function.update kernel.groups group
        { se := (List.range kernel.maxCpuNum).map (first + ·), parentTg := some ptg,
          children := fun _ => none }
      queues := fun queue =>
        if queue.sched = .group group then CFSQueue.new (kernel.idlePcb queue.cpu) else kernel.queues queue
      nextGroup := group + 1 },
    group)

/-- One CPU of `init_group_se`: link the entity to `ptg` and `ntg`, enqueue it. -/
def initGroupSeOn (group ptg ntg : GroupRef) (kernel : Kernel) (cpu : Nat) : Option Kernel :=
  match (kernel.groups group).se.get? cpu with
  | some perSe =>
    let kernel := kernel.updSe perSe fun se =>
      { se with cfsRq := some ⟨.group ptg, cpu⟩, myQ := some ⟨.group ntg, cpu⟩ }
    SchedulerCFS.enqueueGroupSe kernel (.group ntg) perSe cpu
  | none => some kernel

/-- `TaskGroup::init_group_se` on `group`, for every CPU in turn. -/
def initGroupSe (kernel : Kernel) (group ptg ntg : GroupRef) : Option Kernel :=
  (List.range kernel.maxCpuNum).foldlM (initGroupSeOn group ptg ntg) kernel

/-- `TaskGroup::add_tg`: record the group under `pgid`; panics before the table exists. -/
def addTg (kernel : Kernel) (pgid : Pid) (tg : GroupRef) : Option Kernel := do
  let table ← kernel.allProcessGroup
  pure { kernel with allProcessGroup := some (Function.update table pgid (some tg)) }

end TaskGroup

namespace ProcessGroupManager

/-- `ProcessGroupManager::find`: `None` also before `ALL_PROCESS_GROUP` exists. -/
def find (kernel : Kernel) (pgid : Pid) : Option GroupRef := kernel.allProcessGroup.bind fun table => table pgid

/-- `ProcessGroupManager::get_group_by_pgid`: the group's list; panics when it has none. -/
def getGroupByPgid (kernel : Kernel) (pgid : Pid) : Option (List Pid) := kernel.processGroupManager pgid

/-- `ProcessGroupManager::add_process`: append the pid; panics when the group has no list. -/
def addProcess (kernel : Kernel) (pgid pid : Pid) : Option Kernel := do
  let vec ← kernel.processGroupManager pgid
  pure { kernel with
    processGroupManager := Function.update kernel.processGroupManager pgid (some (vec ++ [pid])) }

/-- `ProcessGroupManager::add_group`: a fresh list holding the pgid unless it is 0. -/
def addGroup (kernel : Kernel) (pgid : Pid) : Kernel :=
  { kernel with
    processGroupManager := Function.update kernel.processGroupManager pgid
      (some (if pgid ≠ 0 then [pgid] else [])) }

/-- `ProcessGroupManager::set_pgid_by_pid`: move the pid; `true` when a list is created. -/
def setPgidByPid (kernel : Kernel) (pid newPgid oldPgid : Pid) : Option (Kernel × Bool) := do
  let oldGroupVec ← kernel.processGroupManager oldPgid
  let inner := Function.update kernel.processGroupManager oldPgid
    (some (oldGroupVec.filter fun member => member != pid))
  match inner newPgid with
  | some newGroupVec =>
    pure ({ kernel with processGroupManager := Function.update inner newPgid (some (newGroupVec ++ [pid])) },
      false)
  | none => pure ({ kernel with processGroupManager := Function.update inner newPgid (some [newPgid]) }, true)

end ProcessGroupManager

end DragonOS
