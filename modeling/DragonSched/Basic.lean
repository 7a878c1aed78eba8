import Mathlib.Data.List.Sort

namespace DragonOS

/-- A process id (`int_like!` over `usize`); pid 0 is every idle process, 1 init. -/
abbrev Pid := Nat

/-- The address of a `ProcessControlBlock` behind an `Arc`. Address 0 is the null pointer. -/
abbrev PcbRef := Nat

/-- The address of a `SchedEntity` behind an `Arc`. -/
abbrev SeRef := Nat

/-- The address of a `TaskGroup` behind an `Arc`. -/
abbrev GroupRef := Nat

/-- Owner of per-CPU run queues: `CFS_SCHEDULER_PTR`, or a task group's `cfs`. -/
inductive SchedId where
  | root
  | group (tg : GroupRef)
  deriving DecidableEq, Repr

/-- One leaked `&'static mut CFSQueue`: entry `cpu` of the `cpu_queue` vector of `sched`. -/
structure QueueRef where
  sched : SchedId
  cpu : Nat
  deriving DecidableEq, Repr

/-- A run-queue entry: a process's own `Arc`, or a scheduling entity. -/
inductive Entry where
  | pcb (pcb : PcbRef)
  | se (se : SeRef)
  deriving DecidableEq, Repr

/-- The error numbers the modelled functions return. -/
inductive SystemError where
  | EINVAL
  | EINTR
  | ECHILD
  | EPERM
  | EFAULT
  deriving DecidableEq, Repr

/-- `ProcessState`. -/
inductive ProcessState where
  | runnable
  | blocked (interruptable : Bool)
  | exited (code : Nat)
  deriving DecidableEq, Repr

namespace ProcessState

def isRunnable : ProcessState → Bool
  | .runnable => true
  | _ => false

def isBlocked : ProcessState → Bool
  | .blocked _ => true
  | _ => false

def isExited : ProcessState → Bool
  | .exited _ => true
  | _ => false

@[simp] theorem isBlocked_iff (state : ProcessState) :
    state.isBlocked = true ↔ ∃ interruptable, state = .blocked interruptable := by
  cases state <;> simp [isBlocked]

end ProcessState

/-- `ProcessFlags`, a `bitflags!` set over `usize`; only `NEED_SCHEDULE` is used. -/
structure ProcessFlags where
  bits : BitVec 64
  deriving DecidableEq, Repr

namespace ProcessFlags

def empty : ProcessFlags := ⟨0#64⟩

/-- `NEED_SCHEDULE = 1 << 1`. -/
def needSchedule : ProcessFlags := ⟨1#64 <<< 1⟩

def insert (flags other : ProcessFlags) : ProcessFlags := ⟨flags.bits ||| other.bits⟩

def remove (flags other : ProcessFlags) : ProcessFlags := ⟨flags.bits &&& ~~~other.bits⟩

def contains (flags other : ProcessFlags) : Bool := (flags.bits &&& other.bits) == other.bits

@[simp] theorem contains_insert_self (flags other : ProcessFlags) :
    (flags.insert other).contains other = true := by
  simp only [contains, insert, beq_iff_eq]
  ext index
  simp only [BitVec.getLsbD_and, BitVec.getLsbD_or]
  cases other.bits.getLsbD index <;> simp

/-- Removing `NEED_SCHEDULE` clears it. -/
@[simp] theorem contains_remove_needSchedule (flags : ProcessFlags) :
    (flags.remove needSchedule).contains needSchedule = false := by
  simp only [contains, remove, needSchedule, beq_eq_false_iff_ne, ne_eq]
  intro equal
  have bit := congrArg (fun value : BitVec 64 => value.getLsbD 1) equal
  simp at bit

end ProcessFlags

end DragonOS
