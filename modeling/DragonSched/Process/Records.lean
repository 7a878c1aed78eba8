import DragonSched.Basic

namespace DragonOS

/-- `SchedPriority` of `sched/mod.rs`, not in the source: only `SchedPriority::new(100)` is built. -/
abbrev SchedPriority := Nat

/-- `SchedEntity`; no code calls its `set_pcb` or `set_virtual_runtime`. -/
structure SchedEntity where
  pcb : Option PcbRef
  priority : SchedPriority
  virtualRuntime : Int
  cfsRq : Option QueueRef
  myQ : Option QueueRef

/-- `SchedEntity::new`. -/
def SchedEntity.new : SchedEntity where
  pcb := none
  priority := 100
  virtualRuntime := 0
  cfsRq := none
  myQ := none

/-- `ProcessSchedulerInfo`: the fields the modelled functions read. -/
structure ProcessSchedulerInfo where
  onCpu : Option Nat
  state : ProcessState
  priority : SchedPriority
  virtualRuntime : Int
  se : Option SeRef

/-- `ProcessSchedulerInfo::new`, given the fresh `Arc<SchedEntity>` it allocates. -/
def ProcessSchedulerInfo.new (onCpu : Option Nat) (se : SeRef) : ProcessSchedulerInfo where
  onCpu := onCpu
  state := .blocked false
  priority := 100
  virtualRuntime := 0
  se := some se

/-- `ProcessBasicInfo`; `sched_tg` is the process's task group. -/
structure ProcessBasicInfo where
  pgid : Pid
  ppid : Pid
  name : String
  cwd : String
  schedTg : Option GroupRef

/-- `KernelStack`: base address (`None` once taken), lowest word, and whether it may be freed. -/
structure KernelStack where
  stack : Option Nat
  bottom : Nat
  canBeFreed : Bool

/-- A `HashMap<Pid, Arc<ProcessControlBlock>>`: its entries in iteration order, keys distinct. -/
structure ChildMap where
  entries : List (Pid × PcbRef)
  keysNodup : (entries.map Prod.fst).Nodup

namespace ChildMap

/-- `HashMap::new`. -/
def empty : ChildMap := ⟨[], List.nodup_nil⟩

/-- `HashMap::get`. -/
def get (children : ChildMap) (pid : Pid) : Option PcbRef := children.entries.lookup pid

instance : CoeFun ChildMap fun _ => Pid → Option PcbRef := ⟨get⟩

/-- `HashMap::insert`: the new entry replaces the old one of its pid. -/
def insert (children : ChildMap) (pid : Pid) (child : PcbRef) : ChildMap where
  entries := (pid, child) :: children.entries.filter (·.1 != pid)
  keysNodup := by
    refine List.nodup_cons.mpr ⟨by simp, ?_⟩
    exact children.keysNodup.sublist ((List.filter_sublist _).map _)

/-- `HashMap::drain`: every entry in iteration order, and the map left empty. -/
def drain (children : ChildMap) : List (Pid × PcbRef) × ChildMap := (children.entries, empty)

@[simp] theorem get_empty (pid : Pid) : empty.get pid = none := rfl

theorem lookup_cons_ite (key : Pid) (child : PcbRef) (rest : List (Pid × PcbRef)) (pid : Pid) :
    ((key, child) :: rest).lookup pid = if pid = key then some child else rest.lookup pid := by
  by_cases same : pid = key
  · subst same
    simp
  · rw [List.lookup_cons, beq_false_of_ne same, if_neg same]

theorem lookup_filter_ne (entries : List (Pid × PcbRef)) (pid other : Pid) :
    (entries.filter (·.1 != pid)).lookup other = if other = pid then none else entries.lookup other := by
  induction entries with
  | nil => simp
  | cons entry rest inductionHypothesis =>
      obtain ⟨key, child⟩ := entry
      by_cases kept : key = pid
      · subst kept
        simp only [List.filter_cons, bne_self_eq_false, Bool.false_eq_true, ite_false, inductionHypothesis,
          lookup_cons_ite]
        split_ifs <;> rfl
      · simp only [List.filter_cons, bne_iff_ne.mpr kept, ite_true, lookup_cons_ite, inductionHypothesis]
        split_ifs <;> simp_all

@[simp] theorem get_insert (children : ChildMap) (pid : Pid) (child : PcbRef) (other : Pid) :
    (children.insert pid child).get other = if other = pid then some child else children.get other := by
  by_cases same : other = pid <;> simp [insert, get, lookup_cons_ite, lookup_filter_ne, same]

/-- Inserting entries of distinct pids gives each its entry; other pids keep theirs. -/
theorem get_foldl_insert :
    ∀ (entries : List (Pid × PcbRef)) (children : ChildMap), (entries.map Prod.fst).Nodup → ∀ pid,
      (entries.foldl (fun children entry => children.insert entry.1 entry.2) children).get pid =
        (entries.lookup pid).or (children.get pid)
  | [], _, _, _ => rfl
  | entry :: rest, children, distinct, pid => by
      obtain ⟨fresh, restDistinct⟩ := List.nodup_cons.mp distinct
      obtain ⟨key, child⟩ := entry
      rw [List.foldl_cons, get_foldl_insert rest _ restDistinct, get_insert, lookup_cons_ite]
      by_cases same : pid = key
      · subst same
        have absent : rest.lookup pid = none := List.lookup_eq_none_iff.mpr fun entry member =>
          bne_iff_ne.mpr fun equal => fresh (List.mem_map.mpr ⟨entry, member, equal.symm⟩)
        simp [absent]
      · simp [same]

end ChildMap

/-- `ProcessControlBlock`; the weak `parent_pcb` is the parent's address, `Weak::new()` none. -/
structure ProcessControlBlock where
  pid : Pid
  basic : ProcessBasicInfo
  preemptCount : BitVec 64
  flags : ProcessFlags
  kernelStack : KernelStack
  schedInfo : ProcessSchedulerInfo
  parentPcb : Option PcbRef
  children : ChildMap
  waitQueue : List PcbRef

/-- `TaskGroup`: one entity per CPU, the parent group, and the children by pgid. -/
structure TaskGroup where
  se : List SeRef
  parentTg : Option GroupRef
  children : Pid → Option GroupRef

end DragonOS
