import DragonSched.System.Creation

namespace DragonOS

namespace TaskGroup

variable (group ptg ntg : GroupRef)

/-- One CPU of `init_group_se` links the group's entity there and queues it on `ntg`. -/
theorem initGroupSeOn_spec (kernel : Kernel) {cpu : Nat} (inRange : cpu < kernel.maxCpuNum) :
    ∃ next, initGroupSeOn group ptg ntg kernel cpu = some next ∧ next.groups = kernel.groups ∧
      next.maxCpuNum = kernel.maxCpuNum ∧
      (∀ queue, queue ≠ ⟨.group ntg, cpu⟩ → next.queues queue = kernel.queues queue) ∧
      (∀ se, (kernel.groups group).se.get? cpu ≠ some se → next.ses se = kernel.ses se) ∧
      ∀ se, (kernel.groups group).se.get? cpu = some se →
        (next.ses se).cfsRq = some ⟨.group ptg, cpu⟩ ∧ (next.ses se).myQ = some ⟨.group ntg, cpu⟩ ∧
        (next.queues ⟨.group ntg, cpu⟩).entries.Perm (.se se :: (kernel.queues ⟨.group ntg, cpu⟩).entries) := by
  unfold initGroupSeOn
  split
  · rename_i perSe entity
    dsimp only
    rw [@SchedulerCFS.enqueueGroupSe_of_lt (kernel.updSe perSe _) _ _ _ inRange]
    refine ⟨_, rfl, rfl, rfl, fun queue other => by simp [other], fun se other => ?_, fun se found => ?_⟩
    · have different : se ≠ perSe := fun same => other (same ▸ entity)
      simp [different]
    · obtain rfl : se = perSe := (Option.some.inj (entity.symm.trans found)).symm
      exact ⟨by simp, by simp, by simpa using CFSQueue.enqueueSe_entries _ _ se⟩
  · rename_i missing
    exact ⟨kernel, rfl, rfl, rfl, fun _ _ => rfl, fun _ _ => rfl, fun _ found => Option.noConfusion (missing.symm.trans found)⟩

/-- With distinct entities, two CPUs holding the same entity are the same CPU. -/
theorem cpu_unique {entities : List SeRef} (distinct : entities.Nodup) {cpu other : Nat} {se : SeRef}
    (first : entities.get? cpu = some se) (second : entities.get? other = some se) : cpu = other := by
  rw [List.get?_eq_getElem?] at first second
  exact List.getElem?_inj (List.getElem?_eq_some_iff.mp first).1 distinct (first.trans second.symm)

/-- `init_group_se`'s loop links and queues once each listed CPU's entity, nothing else. -/
theorem foldlM_initGroupSeOn {entities : List SeRef} (distinct : entities.Nodup) :
    ∀ {cpus : List Nat} {kernel : Kernel}, cpus.Nodup → (∀ cpu ∈ cpus, cpu < kernel.maxCpuNum) →
      (kernel.groups group).se = entities →
      ∃ next, cpus.foldlM (initGroupSeOn group ptg ntg) kernel = some next ∧
        (∀ queue, queue.sched ≠ .group ntg ∨ queue.cpu ∉ cpus → next.queues queue = kernel.queues queue) ∧
        (∀ se, (∀ cpu ∈ cpus, entities.get? cpu ≠ some se) → next.ses se = kernel.ses se) ∧
        ∀ cpu ∈ cpus, ∀ se, entities.get? cpu = some se →
          (next.ses se).cfsRq = some ⟨.group ptg, cpu⟩ ∧ (next.ses se).myQ = some ⟨.group ntg, cpu⟩ ∧
          (next.queues ⟨.group ntg, cpu⟩).entries.Perm (.se se :: (kernel.queues ⟨.group ntg, cpu⟩).entries)
  | [], kernel, _, _, _ =>
      ⟨kernel, rfl, fun _ _ => rfl, fun _ _ => rfl, fun _ member => absurd member (List.not_mem_nil _)⟩
  | cpu :: rest, kernel, nodup, inRange, listed => by
      obtain ⟨fresh, restNodup⟩ := List.nodup_cons.mp nodup
      obtain ⟨step, stepEq, groups, cpus, queues, ses, linked⟩ :=
        initGroupSeOn_spec group ptg ntg kernel (inRange cpu (List.mem_cons_self _ _))
      obtain ⟨next, nextEq, nextQueues, nextSes, nextLinked⟩ := foldlM_initGroupSeOn distinct restNodup
        (fun other member => cpus ▸ inRange other (List.mem_cons_of_mem _ member)) (by rw [groups]; exact listed)
      refine ⟨next, by simp [stepEq, nextEq], fun queue outside => ?_, fun se unlisted => ?_,
        fun other member se found => ?_⟩
      · have elsewhere : queue ≠ ⟨.group ntg, cpu⟩ := by
          rintro rfl
          simp at outside
        rw [nextQueues queue (outside.imp_right fun notIn inRest => notIn (List.mem_cons_of_mem _ inRest)),
          queues queue elsewhere]
      · rw [nextSes se fun other member => unlisted other (List.mem_cons_of_mem _ member),
          ses se (listed ▸ unlisted cpu (List.mem_cons_self _ _))]
      · rcases List.mem_cons.mp member with rfl | later
        · have untouched : ∀ other ∈ rest, entities.get? other ≠ some se :=
            fun other inRest same => fresh (cpu_unique distinct found same ▸ inRest)
          rw [nextSes se untouched, nextQueues _ (.inr fresh)]
          exact linked se (listed ▸ found)
        · have different : other ≠ cpu := fun same => fresh (same ▸ later)
          rw [← queues _ (by simp [different])]
          exact nextLinked other later se found

/-- `init_group_se` with distinct entities links and queues each CPU's entity once. -/
theorem initGroupSe_links (kernel : Kernel) (distinct : (kernel.groups group).se.Nodup) :
    ∃ next, initGroupSe kernel group ptg ntg = some next ∧
      (∀ queue, queue.sched ≠ .group ntg → next.queues queue = kernel.queues queue) ∧
      (∀ se, se ∉ (kernel.groups group).se → next.ses se = kernel.ses se) ∧
      ∀ cpu < kernel.maxCpuNum, ∀ se, (kernel.groups group).se.get? cpu = some se →
        (next.ses se).cfsRq = some ⟨.group ptg, cpu⟩ ∧ (next.ses se).myQ = some ⟨.group ntg, cpu⟩ ∧
        (next.queues ⟨.group ntg, cpu⟩).entries.Perm (.se se :: (kernel.queues ⟨.group ntg, cpu⟩).entries) := by
  obtain ⟨next, nextEq, queues, ses, linked⟩ := foldlM_initGroupSeOn group ptg ntg distinct
    (List.nodup_range _) (fun _ member => List.mem_range.mp member) rfl
  refine ⟨next, nextEq, fun queue other => queues queue (.inl other), fun se unlisted => ses se ?_,
    fun cpu inRange => linked cpu (List.mem_range.mpr inRange)⟩
  exact fun cpu _ found => unlisted (List.get?_mem found)

/-- `TaskGroup::new` gives the new group one fresh entity per CPU, all distinct. -/
theorem new_se_nodup (kernel : Kernel) (ptg : GroupRef) :
    (((new kernel ptg).1.groups (new kernel ptg).2).se).Nodup := by
  simp only [new, Function.update_same]
  exact (List.nodup_range _).map fun _ _ same => Nat.add_left_cancel same

theorem groupKernel_group_links :
    ∃ next, initGroupSe (new groupKernel 0).1 1 0 1 = some next ∧
      (∀ queue, queue.sched ≠ .group 1 → next.queues queue = (new groupKernel 0).1.queues queue) ∧
      (∀ se, se ∉ ((new groupKernel 0).1.groups 1).se → next.ses se = (new groupKernel 0).1.ses se) ∧
      ∀ cpu < (new groupKernel 0).1.maxCpuNum, ∀ se, ((new groupKernel 0).1.groups 1).se.get? cpu = some se →
        (next.ses se).cfsRq = some ⟨.group 0, cpu⟩ ∧ (next.ses se).myQ = some ⟨.group 1, cpu⟩ ∧
        (next.queues ⟨.group 1, cpu⟩).entries.Perm
          (.se se :: ((new groupKernel 0).1.queues ⟨.group 1, cpu⟩).entries) :=
  initGroupSe_links 1 0 1 (new groupKernel 0).1 (new_se_nodup groupKernel 0)

end TaskGroup

end DragonOS
