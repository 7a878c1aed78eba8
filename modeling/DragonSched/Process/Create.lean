import DragonSched.Process.Manager

namespace DragonOS

/-- `KernelStack::set_pcb`: the address goes into the lowest word, unless one is already there. -/
def KernelStack.setPcb (stack : KernelStack) (pcb : PcbRef) :
    Option (Except SystemError KernelStack) := do
  let _ ← stack.stack
  if stack.bottom ≠ 0 then pure (.error .EPERM) else pure (.ok { stack with bottom := pcb })

/-- `KernelStack::new`: zeroed memory at `base`, the address the aligned allocation returned. -/
def KernelStack.new (base : Nat) : KernelStack := { stack := some base, bottom := 0, canBeFreed := true }

/-- `KernelStack::pcb`: it casts `as_ptr()`, the base address, not the word stored there. -/
def KernelStack.pcb (stack : KernelStack) : Option (Option PcbRef) := do
  let base ← stack.stack
  pure (if base = 0 then none else some base)

/-- The handle the `Drop` of `KernelStack` releases: an `Arc` rebuilt from the base address. -/
def KernelStack.drop (stack : KernelStack) : Option PcbRef := stack.stack

namespace ProcessControlBlock

/-- `ProcessControlBlock::generate_pid`: `NEXT_PID.fetch_add(1)`, which wraps at `2^64`. -/
def generatePid (kernel : Kernel) : Kernel × Pid :=
  ({ kernel with nextPid := (kernel.nextPid + 1) % 18446744073709551616 }, kernel.nextPid)

/-- `ProcessControlBlock::do_create_pcb`, called by the process running on `cpu`. -/
def doCreatePcb (kernel : Kernel) (cpu : Nat) (name : String) (kstack : KernelStack) (isIdle : Bool) :
    Option (Kernel × PcbRef) := do
  let current := kernel.pcbs (kernel.current cpu)
  let (kernel, pid, ppid, cwd) :=
    if isIdle then (kernel, 0, 0, "/")
    else
      let (kernel, pid) := generatePid kernel
      (kernel, pid, current.pid, current.basic.cwd)
  let basicInfo : ProcessBasicInfo :=
    { pgid := current.basic.pgid, ppid := ppid, name := name, cwd := cwd, schedTg := current.basic.schedTg }
  let se := kernel.nextSe
  let kernel := { kernel with ses := Function.update kernel.ses se SchedEntity.new, nextSe := se + 1 }
  let ppcb := ProcessManager.find kernel ppid
  let pcb := kernel.nextPcb
  let kernelStack ← (kstack.setPcb pcb).bind Except.toOption
  let record : ProcessControlBlock :=
    { pid := pid, basic := basicInfo, preemptCount := 0#64, flags := .empty,
      kernelStack := kernelStack, schedInfo := ProcessSchedulerInfo.new none se, parentPcb := ppcb,
      children := .empty, waitQueue := [] }
  let kernel := { kernel with pcbs := Function.update kernel.pcbs pcb record, nextPcb := pcb + 1 }
  if 1 < pid then
    let parent ← ppcb
    pure (kernel.updPcb parent fun p => { p with children := p.children.insert pid pcb }, pcb)
  else pure (kernel, pcb)

/-- `ProcessControlBlock::new`. -/
def new (kernel : Kernel) (cpu : Nat) (name : String) (kstack : KernelStack) :
    Option (Kernel × PcbRef) :=
  doCreatePcb kernel cpu name kstack false

end ProcessControlBlock

end DragonOS
