import DragonSched.System.Exclusive

namespace DragonOS

namespace ProcessControlBlock

/-- `preempt_disable` and `preempt_enable` change the count by a wrapping `usize` atomic. -/
def updPreemptCount (change : BitVec 64 → BitVec 64) (pcb : ProcessControlBlock) :
    ProcessControlBlock :=
  { pcb with preemptCount := change pcb.preemptCount }

/-- `ProcessControlBlock::preempt_disable`. -/
def preemptDisable : ProcessControlBlock → ProcessControlBlock := updPreemptCount (· + 1#64)

/-- `ProcessControlBlock::preempt_enable`. -/
def preemptEnable : ProcessControlBlock → ProcessControlBlock := updPreemptCount (· - 1#64)

end ProcessControlBlock

namespace ProcessManager

/-- `ProcessManager::init`: a second call panics; the architecture setup is outside the source. -/
def init (kernel : Kernel) : Option Kernel :=
  if kernel.initFlag then none
  else some { kernel with initFlag := true, allProcess := some fun _ => none, initDone := true }

/-- The guard of `preempt_disable` and `preempt_enable`: no change before initialization. -/
def whenInitDone (change : ProcessControlBlock → ProcessControlBlock) (kernel : Kernel) (cpu : Nat) :
    Kernel :=
  if kernel.initDone then kernel.updPcb (kernel.current cpu) change else kernel

/-- `ProcessManager::preempt_disable`. -/
def preemptDisable (kernel : Kernel) (cpu : Nat) : Kernel :=
  whenInitDone ProcessControlBlock.preemptDisable kernel cpu

/-- `ProcessManager::preempt_enable`. -/
def preemptEnable (kernel : Kernel) (cpu : Nat) : Kernel :=
  whenInitDone ProcessControlBlock.preemptEnable kernel cpu

/-- `ProcessManager::kick`: the running process's count goes up and down, unguarded. -/
def kick (kernel : Kernel) (cpu : Nat) : Kernel :=
  let kernel := kernel.updPcb (kernel.current cpu) ProcessControlBlock.preemptDisable
  kernel.updPcb (kernel.current cpu) ProcessControlBlock.preemptEnable

end ProcessManager

/-- The preemption count of the process running on `cpu`. -/
def preemptCount (kernel : Kernel) (cpu : Nat) : BitVec 64 := (kernel.pcbs (kernel.current cpu)).preemptCount

/-- A call on the running process's preemption count, or the one `init`. -/
inductive PreemptCall where
  | disable
  | enable
  | init
  | kick
  deriving DecidableEq, Repr

namespace PreemptCall

def run (kernel : Kernel) (cpu : Nat) : PreemptCall → Option Kernel
  | .disable => some (ProcessManager.preemptDisable kernel cpu)
  | .enable => some (ProcessManager.preemptEnable kernel cpu)
  | .init => ProcessManager.init kernel
  | .kick => some (ProcessManager.kick kernel cpu)

def runs (kernel : Kernel) (cpu : Nat) : List PreemptCall → Option Kernel
  | [] => some kernel
  | call :: rest => (call.run kernel cpu).bind fun next => runs next cpu rest

end PreemptCall

/-- How the calls pair up: open disables, and each enable's side of initialization. -/
def openDisables : Bool → List Bool → List PreemptCall → Option (List Bool × List (Bool × Bool))
  | _, stack, [] => some (stack, [])
  | done, stack, .disable :: rest => openDisables done (done :: stack) rest
  | done, stack, .enable :: rest =>
      match stack with
      | [] => none
      | made :: stack => (openDisables done stack rest).map fun (left, closings) =>
          (left, (done, made) :: closings)
  | _, stack, .init :: rest => openDisables true stack rest
  | done, stack, .kick :: rest => openDisables done stack rest

end DragonOS

namespace DragonOS

theorem toNat_add_one {x : BitVec 64} (room : x.toNat + 1 < 2 ^ 64) : (x + 1#64).toNat = x.toNat + 1 := by
  rw [BitVec.toNat_add, BitVec.toNat_ofNat]
  omega

theorem toNat_sub_one {x : BitVec 64} (positive : 0 < x.toNat) : (x - 1#64).toNat = x.toNat - 1 := by
  rw [BitVec.toNat_sub, BitVec.toNat_ofNat]
  omega

namespace ProcessManager

variable (kernel : Kernel) (cpu : Nat)

@[simp] theorem whenInitDone_current (change) : (whenInitDone change kernel cpu).current = kernel.current := by
  unfold whenInitDone
  split <;> rfl

@[simp] theorem whenInitDone_initDone (change) : (whenInitDone change kernel cpu).initDone = kernel.initDone := by
  unfold whenInitDone
  split <;> rfl

theorem preemptCount_whenInitDone (change : BitVec 64 → BitVec 64) :
    preemptCount (whenInitDone (ProcessControlBlock.updPreemptCount change) kernel cpu) cpu =
      if kernel.initDone then change (preemptCount kernel cpu) else preemptCount kernel cpu := by
  unfold whenInitDone
  split <;> simp [preemptCount, ProcessControlBlock.updPreemptCount]

@[simp] theorem preemptCount_kick : preemptCount (kick kernel cpu) cpu = preemptCount kernel cpu := by
  simp [kick, preemptCount, ProcessControlBlock.preemptDisable, ProcessControlBlock.preemptEnable,
    ProcessControlBlock.updPreemptCount, BitVec.add_sub_cancel]

@[simp] theorem kick_initDone : (kick kernel cpu).initDone = kernel.initDone := rfl

@[simp] theorem preemptDisable_initDone : (preemptDisable kernel cpu).initDone = kernel.initDone :=
  whenInitDone_initDone kernel cpu _

@[simp] theorem preemptEnable_initDone : (preemptEnable kernel cpu).initDone = kernel.initDone :=
  whenInitDone_initDone kernel cpu _

/-- A disable adds one to the count once initialization has completed. -/
theorem preemptCount_preemptDisable (room : (preemptCount kernel cpu).toNat + 1 < 2 ^ 64) :
    (preemptCount (preemptDisable kernel cpu) cpu).toNat =
      (preemptCount kernel cpu).toNat + if kernel.initDone then 1 else 0 := by
  rw [preemptDisable, ProcessControlBlock.preemptDisable, preemptCount_whenInitDone]
  cases kernel.initDone
  · rfl
  · exact toNat_add_one room

/-- An enable takes one from the count once initialization has completed. -/
theorem preemptCount_preemptEnable (positive : kernel.initDone = true → 0 < (preemptCount kernel cpu).toNat) :
    (preemptCount (preemptEnable kernel cpu) cpu).toNat =
      (preemptCount kernel cpu).toNat - if kernel.initDone then 1 else 0 := by
  rw [preemptEnable, ProcessControlBlock.preemptEnable, preemptCount_whenInitDone]
  cases done : kernel.initDone
  · rfl
  · exact toNat_sub_one (positive done)

theorem init_eq_some {next : Kernel} (initialized : init kernel = some next) :
    next.initDone = true ∧ preemptCount next cpu = preemptCount kernel cpu := by
  unfold init at initialized
  split at initialized
  · cases initialized
  · cases initialized
    exact ⟨rfl, rfl⟩

end ProcessManager

theorem count_true_cons (made : Bool) (stack : List Bool) :
    (made :: stack).count true = stack.count true + if made then 1 else 0 := by
  cases made <;> simp

/-- When enables close disables of their own side, the count tracks open disables. -/
theorem preemptCount_runs {cpu base : Nat} :
    ∀ {calls : List PreemptCall} {kernel next : Kernel} {stack left : List Bool}
      {closings : List (Bool × Bool)},
      openDisables kernel.initDone stack calls = some (left, closings) →
      (∀ closing ∈ closings, closing.1 = closing.2) →
      (preemptCount kernel cpu).toNat = base + stack.count true →
      base + stack.count true + calls.length < 2 ^ 64 →
      PreemptCall.runs kernel cpu calls = some next →
      (preemptCount next cpu).toNat = base + left.count true
  | [], kernel, next, stack, left, closings, matched, _, counted, _, ran => by
      cases matched
      cases ran
      exact counted
  | .disable :: rest, kernel, next, stack, left, closings, matched, samePhase, counted, room, ran => by
      have ran : PreemptCall.runs (ProcessManager.preemptDisable kernel cpu) cpu rest = some next := ran
      have matched : openDisables kernel.initDone (kernel.initDone :: stack) rest = some (left, closings) :=
        matched
      rw [List.length_cons] at room
      refine preemptCount_runs (by rwa [ProcessManager.preemptDisable_initDone]) samePhase ?_ ?_ ran
      · rw [ProcessManager.preemptCount_preemptDisable _ _ (by omega), counted, count_true_cons]
        omega
      · rw [count_true_cons]
        split <;> omega
  | .enable :: rest, kernel, next, stack, left, closings, matched, samePhase, counted, room, ran => by
      have ran : PreemptCall.runs (ProcessManager.preemptEnable kernel cpu) cpu rest = some next := ran
      cases stack with
      | nil => cases matched
      | cons made stack =>
        simp only [openDisables, Option.map_eq_some', Prod.mk.injEq] at matched
        obtain ⟨⟨left, closings⟩, matched, rfl, rfl⟩ := matched
        have same : kernel.initDone = made := samePhase _ (List.mem_cons_self _ _)
        rw [count_true_cons] at counted room
        rw [List.length_cons] at room
        refine preemptCount_runs (by rwa [ProcessManager.preemptEnable_initDone])
          (fun closing member => samePhase closing (List.mem_cons_of_mem _ member)) ?_ (by omega) ran
        rw [ProcessManager.preemptCount_preemptEnable _ _ fun done => by rw [counted, ← same, if_pos done]; omega,
          counted, same]
        omega
  | .init :: rest, kernel, next, stack, left, closings, matched, samePhase, counted, room, ran => by
      simp only [PreemptCall.runs, PreemptCall.run, Option.bind_eq_some] at ran
      obtain ⟨initialized, initEq, ran⟩ := ran
      obtain ⟨done, sameCount⟩ := ProcessManager.init_eq_some kernel cpu initEq
      simp only [openDisables] at matched
      simp only [List.length_cons] at room
      exact preemptCount_runs (by rw [done]; exact matched) samePhase (by rw [sameCount]; exact counted)
        (by omega) ran
  | .kick :: rest, kernel, next, stack, left, closings, matched, samePhase, counted, room, ran => by
      have ran : PreemptCall.runs (ProcessManager.kick kernel cpu) cpu rest = some next := ran
      simp only [openDisables] at matched
      simp only [List.length_cons] at room
      exact preemptCount_runs (by simpa using matched) samePhase (by simpa using counted) (by omega) ran

end DragonOS

namespace DragonOS

/-- Matched calls keep the count at start plus open post-initialization disables. -/
theorem preemptCount_open_disables {kernel next : Kernel} {cpu : Nat} {calls : List PreemptCall}
    {stack : List Bool} {closings : List (Bool × Bool)}
    (matched : openDisables kernel.initDone [] calls = some (stack, closings))
    (samePhase : ∀ closing ∈ closings, closing.1 = closing.2)
    (room : (preemptCount kernel cpu).toNat + calls.length < 2 ^ 64)
    (ran : PreemptCall.runs kernel cpu calls = some next) :
    (preemptCount next cpu).toNat = (preemptCount kernel cpu).toNat + stack.count true ∧
      (stack = [] → preemptCount next cpu = preemptCount kernel cpu) := by
  have start : (preemptCount kernel cpu).toNat = (preemptCount kernel cpu).toNat + ([] : List Bool).count true :=
    rfl
  have counted := preemptCount_runs matched samePhase start (by simpa using room) ran
  refine ⟨counted, fun balanced => BitVec.eq_of_toNat_eq ?_⟩
  simpa [balanced] using counted

theorem twoCpus_preemptCount :
    (preemptCount (ProcessManager.preemptEnable (ProcessManager.preemptDisable
        (ProcessManager.kick (ProcessManager.preemptDisable twoCpus 0) 0) 0) 0) 0).toNat =
      (preemptCount twoCpus 0).toNat + [true].count true ∧
    ([true] = [] → preemptCount (ProcessManager.preemptEnable (ProcessManager.preemptDisable
        (ProcessManager.kick (ProcessManager.preemptDisable twoCpus 0) 0) 0) 0) 0 =
      preemptCount twoCpus 0) :=
  @preemptCount_open_disables twoCpus _ 0 [.disable, .kick, .disable, .enable] [true] [(true, true)]
    (by decide) (by decide) (by decide) rfl

/-- `twoCpus` before `ProcessManager::init`. -/
def bootCpus : Kernel := { twoCpus with allProcess := none, initFlag := false, initDone := false }

/-- A disable before initialization closed after it wraps the count to 2^64 - 1. -/
theorem enable_after_init_wraps :
    openDisables bootCpus.initDone [] [.disable, .init, .enable] = some ([], [(true, false)]) ∧
      (PreemptCall.runs bootCpus 0 [.disable, .init, .enable]).map
        (fun kernel => (preemptCount kernel 0).toNat) = some (2 ^ 64 - 1) := by
  decide

end DragonOS
