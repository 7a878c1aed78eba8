import DragonSched.System.Creation

namespace DragonOS

open ProcessManager

/-- With init registered apart from `pcb`, `adopt_childen` drains `pcb`'s map into init's. -/
theorem adoptChilden_children {kernel : Kernel} {pcb initPcb : PcbRef}
    (registered : find kernel 1 = some initPcb) (different : initPcb ≠ pcb) :
    (adoptChilden kernel pcb).2 = .ok () ∧
      (∀ pid, ((adoptChilden kernel pcb).1.pcbs pcb).children pid = none) ∧
      ∀ pid, ((adoptChilden kernel pcb).1.pcbs initPcb).children pid =
        ((kernel.pcbs pcb).children pid).or ((kernel.pcbs initPcb).children pid) := by
  simp only [adoptChilden, registered, ChildMap.drain]
  refine ⟨trivial, fun pid => by simp [Ne.symm different], fun pid => ?_⟩
  simp only [Kernel.updPcb_pcbs, if_pos rfl, if_neg different]
  exact ChildMap.get_foldl_insert _ _ (kernel.pcbs pcb).children.keysNodup pid

/-- `exit_notify` hands the exiting process's children to init; without init, `ECHILD`. -/
theorem exitNotify_adopts_children (kernel : Kernel) (cpu : Nat) :
    (∀ initPcb, find kernel 1 = some initPcb → (kernel.pcbs initPcb).pid = 1 →
      (kernel.pcbs (kernel.current cpu)).pid ≠ 1 →
      (∀ pid, (kernel.pcbs (kernel.current cpu)).children pid = none ∨
        (kernel.pcbs initPcb).children pid = none) →
      ∃ next, exitNotify kernel cpu = some next ∧
        (∀ pid, (next.pcbs (kernel.current cpu)).children pid = none) ∧
        ∀ pid child, (next.pcbs initPcb).children pid = some child ↔
          (kernel.pcbs (kernel.current cpu)).children pid = some child ∨
            (kernel.pcbs initPcb).children pid = some child) ∧
      (find kernel 1 = none → ∀ pcb, adoptChilden kernel pcb = (kernel, .error .ECHILD)) := by
  refine ⟨fun initPcb registered isInit notInit disjoint => ?_,
    fun missing pcb => by simp [adoptChilden, missing]⟩
  have different : initPcb ≠ kernel.current cpu := fun same => notInit (same ▸ isInit)
  obtain ⟨adopted, drained, merged⟩ := adoptChilden_children registered different
  have result : adoptChilden kernel (kernel.current cpu) =
      ((adoptChilden kernel (kernel.current cpu)).1, .ok ()) := Prod.ext rfl adopted
  refine ⟨_, ?_, drained, fun pid child => ?_⟩
  · simp only [exitNotify, ne_eq, notInit, not_false_eq_true, ite_true]
    rw [result]
  · rw [merged]
    rcases disjoint pid with none | none <;> simp [none]

/-- Process 3 with children of pids 4 and 5; init 5 with child pid 3. -/
def twoChildren : Kernel :=
  { twoCpus with
    pcbs := fun pcb =>
      if pcb = 3 then { twoCpus.pcbs 3 with children := ⟨[(4, 6), (5, 7)], by decide⟩ }
      else if pcb = 5 then { twoCpus.pcbs 5 with children := ⟨[(3, 4)], by decide⟩ }
      else twoCpus.pcbs pcb }

theorem twoChildren_adopted :
    (∃ next, exitNotify twoChildren 0 = some next ∧
        (∀ pid, (next.pcbs (twoChildren.current 0)).children pid = none) ∧
        ∀ pid child, (next.pcbs 5).children pid = some child ↔
          (twoChildren.pcbs (twoChildren.current 0)).children pid = some child ∨
            (twoChildren.pcbs 5).children pid = some child) ∧
      ∀ pcb, adoptChilden { twoChildren with allProcess := none } pcb =
        ({ twoChildren with allProcess := none }, .error .ECHILD) :=
  ⟨(exitNotify_adopts_children twoChildren 0).1 5 rfl rfl (by decide) fun pid => by
      show (twoChildren.pcbs 3).children pid = none ∨ (twoChildren.pcbs 5).children pid = none
      by_cases three : pid = 3 <;> simp [twoChildren, ChildMap.get, ChildMap.lookup_cons_ite, three],
    (exitNotify_adopts_children { twoChildren with allProcess := none } 0).2 rfl⟩

namespace ProcessGroupManager

/-- Every pid is in at most one group's list, and at most once there. -/
def AtMostOnce (table : Pid → Option (List Pid)) : Prop :=
  ∀ pid group list, table group = some list → pid ∈ list →
    list.count pid = 1 ∧ ∀ other others, table other = some others → pid ∈ others → other = group

end ProcessGroupManager

/-- `set_pgid_by_pid` into an unlisted group leaves a pid other than its pgid unlisted. -/
theorem setPgidByPid_drops_pid {kernel : Kernel} {pid newPgid oldPgid : Pid} {old : List Pid}
    (hasOld : kernel.processGroupManager oldPgid = some old) (member : pid ∈ old)
    (once : ProcessGroupManager.AtMostOnce kernel.processGroupManager)
    (fresh : kernel.processGroupManager newPgid = none) (other : pid ≠ newPgid) :
    ∃ next, ProcessGroupManager.setPgidByPid kernel pid newPgid oldPgid = some (next, true) ∧
      next.processGroupManager newPgid = some [newPgid] ∧
      ∀ group list, next.processGroupManager group = some list → pid ∉ list := by
  have apart : newPgid ≠ oldPgid := fun same => by rw [same, hasOld] at fresh; cases fresh
  simp only [ProcessGroupManager.setPgidByPid, hasOld, Function.update_noteq apart, fresh]
  refine ⟨_, rfl, by simp, fun group list found => ?_⟩
  simp only [Function.update_apply] at found
  split_ifs at found with atNew atOld
  · cases found
    simpa using other
  · cases found
    simp
  · exact fun inList => atOld ((once pid oldPgid old hasOld member).2 group list found inList)

/-- `twoCpus` with the group of pgid 5 holding pids 5 and 7. -/
def groupTable : Kernel :=
  { twoCpus with processGroupManager := fun group => if group = 5 then some [5, 7] else none }

theorem groupTable_drops_pid :
    ∃ next, ProcessGroupManager.setPgidByPid groupTable 7 9 5 = some (next, true) ∧
      next.processGroupManager 9 = some [9] ∧
      ∀ group list, next.processGroupManager group = some list → 7 ∉ list := by
  have listed : ∀ group list, groupTable.processGroupManager group = some list →
      group = 5 ∧ list = [5, 7] := by
    intro group list found
    simp only [groupTable] at found
    split_ifs at found with atFive
    exact ⟨atFive, (Option.some.inj found).symm⟩
  refine setPgidByPid_drops_pid rfl (by decide) (fun pid group list found member => ?_) rfl (by decide)
  obtain ⟨rfl, rfl⟩ := listed group list found
  refine ⟨?_, fun other others found _ => (listed other others found).1⟩
  rcases List.mem_pair.mp member with rfl | rfl <;> rfl

/-- `release` of a registered process always panics; an unregistered pid changes nothing. -/
theorem release_panics_when_registered (kernel : Kernel) (held : PcbRef → Nat) (pid : Pid) :
    (∀ pcb, find kernel pid = some pcb → 1 ≤ held pcb → release kernel held pid = none) ∧
      (find kernel pid = none → release kernel held pid = some kernel) := by
  refine ⟨fun pcb registered holding => ?_, fun missing => by simp [release, missing]⟩
  simp only [release, registered]
  exact if_neg (by omega)

theorem twoCpus_release_panics :
    release twoCpus (fun _ => 1) 2 = none ∧ release twoCpus (fun _ => 1) 7 = some twoCpus :=
  ⟨(release_panics_when_registered twoCpus _ 2).1 3 rfl le_rfl,
    (release_panics_when_registered twoCpus _ 7).2 rfl⟩

end DragonOS
