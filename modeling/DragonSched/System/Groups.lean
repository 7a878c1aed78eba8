import DragonSched.System.Registry

namespace DragonOS

namespace ProcessGroupManager

/-- The pid is in some group's list. -/
def Listed (table : Pid → Option (List Pid)) (pid : Pid) : Prop :=
  ∃ group list, table group = some list ∧ pid ∈ list

section Update

variable {table : Pid → Option (List Pid)} {key : Pid} {list : List Pid}

/-- A new list of fresh, distinct pids keeps every pid listed at most once. -/
theorem AtMostOnce.update (once : AtMostOnce table) (single : ∀ pid ∈ list, list.count pid = 1)
    (apart : ∀ pid ∈ list, ∀ group others, group ≠ key → table group = some others → pid ∉ others) :
    AtMostOnce (Function.update table key (some list)) := by
  intro pid group current found member
  by_cases atKey : group = key
  · subst atKey
    obtain rfl : list = current := by simpa using found
    refine ⟨single pid member, fun other others found' member' => ?_⟩
    by_contra different
    rw [Function.update_noteq different] at found'
    exact apart pid member other others different found' member'
  · rw [Function.update_noteq atKey] at found
    obtain ⟨counted, unique⟩ := once pid group current found member
    refine ⟨counted, fun other others found' member' => ?_⟩
    by_cases otherKey : other = key
    · subst otherKey
      obtain rfl : list = others := by simpa using found'
      exact absurd member (apart pid member' group current atKey found)
    · rw [Function.update_noteq otherKey] at found'
      exact unique other others found' member'

/-- A listed pid stays listed when its group's list is replaced by one keeping it. -/
theorem Listed.update {pid : Pid} (listed : Listed table pid)
    (keeps : ∀ old, table key = some old → pid ∈ old → pid ∈ list) :
    Listed (Function.update table key (some list)) pid := by
  obtain ⟨group, current, found, member⟩ := listed
  by_cases atKey : group = key
  · subst atKey
    exact ⟨group, list, Function.update_same _ _ _, keeps current found member⟩
  · exact ⟨group, current, by rw [Function.update_noteq atKey, found], member⟩

/-- Reading a table at a listed group after one group's list was replaced. -/
theorem update_apply_of_some {group : Pid} {found : List Pid} (hasList : table group = some found) :
    Function.update table key (some list) group = some (if group = key then list else found) := by
  by_cases same : group = key <;> simp [Function.update_apply, same, hasList]

/-- A list with one pid filtered out holds every other pid it held. -/
theorem mem_filter_ne {pid other : Pid} :
    other ∈ list.filter (fun listed => listed != pid) ↔ other ∈ list ∧ other ≠ pid := by
  simp [List.mem_filter]

/-- A list with one pid filtered out counts every other pid as before. -/
theorem count_filter_ne {pid other : Pid} (different : other ≠ pid) :
    (list.filter fun listed => listed != pid).count other = list.count other := by
  simp [different, List.count_filter]

/-- Pushing an unlisted pid keeps pids unique and every listed pid listed. -/
theorem AtMostOnce.push {pid : Pid} (once : AtMostOnce table) (unlisted : ¬ Listed table pid)
    (found : table key = some list) :
    AtMostOnce (Function.update table key (some (list ++ [pid]))) ∧
      ∀ other, Listed table other → Listed (Function.update table key (some (list ++ [pid]))) other := by
  have inList (other : Pid) (listed : other ∈ list) := once other key list found listed
  refine ⟨once.update (fun other member => ?_) (fun other member group others atOther found' listed => ?_),
    fun other listed => listed.update fun before found' member => ?_⟩
  · by_cases isPid : other = pid
    · subst isPid
      have absent : other ∉ list := fun listed => unlisted ⟨key, list, found, listed⟩
      simp [List.count_append, List.count_eq_zero_of_not_mem absent]
    · have listed : other ∈ list := by simpa [isPid] using member
      simpa [List.count_append, isPid] using (inList other listed).1
  · rcases List.mem_append.mp member with inOld | single
    · exact atOther ((inList other inOld).2 group others found' listed)
    · exact unlisted ⟨group, others, found', List.mem_singleton.mp single ▸ listed⟩
  · obtain rfl : list = before := Option.some.inj (found.symm.trans found')
    exact List.mem_append_left _ member

end Update

/-- `set_pgid_by_pid` into a listed group pushes the pid and returns `false`. -/
theorem setPgidByPid_of_listed {kernel : Kernel} {pid newPgid oldPgid : Pid} {old pushedTo : List Pid}
    (hasOld : kernel.processGroupManager oldPgid = some old)
    (hasNew : Function.update kernel.processGroupManager oldPgid
      (some (old.filter fun listed => listed != pid)) newPgid = some pushedTo) :
    setPgidByPid kernel pid newPgid oldPgid =
      some ({ kernel with processGroupManager := Function.update (Function.update kernel.processGroupManager
        oldPgid (some (old.filter fun listed => listed != pid))) newPgid (some (pushedTo ++ [pid])) }, false) := by
  simp only [setPgidByPid, hasOld, bind, Option.some_bind, hasNew]
  rfl

/-- `set_pgid_by_pid` into a listed group keeps pids unique and loses none. -/
theorem AtMostOnce.setPgidByPid {kernel next : Kernel} {pid newPgid oldPgid : Pid} {old : List Pid}
    {result : Bool} (once : AtMostOnce kernel.processGroupManager)
    (hasOld : kernel.processGroupManager oldPgid = some old) (member : pid ∈ old)
    (hasNew : kernel.processGroupManager newPgid ≠ none)
    (moved : setPgidByPid kernel pid newPgid oldPgid = some (next, result)) :
    AtMostOnce next.processGroupManager ∧
      ∀ listed, Listed kernel.processGroupManager listed → Listed next.processGroupManager listed := by
  have inOld (other : Pid) (listed : other ∈ old) := once other oldPgid old hasOld listed
  have keptMem (other : Pid) := @mem_filter_ne old pid other
  have keptCount (other : Pid) (different : other ≠ pid) := @count_filter_ne old pid other different
  obtain ⟨newList, hasList⟩ := Option.ne_none_iff_exists'.mp hasNew
  have innerNew := @update_apply_of_some _ oldPgid (old.filter fun listed => listed != pid) _ _ hasList
  generalize (if newPgid = oldPgid then _ else newList) = pushedTo at innerNew
  rw [setPgidByPid_of_listed hasOld innerNew, Option.some.injEq, Prod.mk.injEq] at moved
  obtain ⟨rfl, -⟩ := moved
  generalize old.filter (fun listed => listed != pid) = kept at innerNew keptMem keptCount
  -- the table once the pid has left its old group
  have once₁ : AtMostOnce (Function.update kernel.processGroupManager oldPgid (some kept)) := by
    refine once.update (fun other listed => ?_) (fun other listed group others atOther found member => ?_)
    · obtain ⟨inList, different⟩ := (keptMem other).mp listed
      rw [keptCount other different]
      exact (inOld other inList).1
    · exact atOther ((inOld other ((keptMem other).mp listed).1).2 group others found member)
  -- no list of that table holds the pid
  have gone : ¬ Listed (Function.update kernel.processGroupManager oldPgid (some kept)) pid := by
    rintro ⟨group, list, found, listed⟩
    by_cases atOld : group = oldPgid
    · subst atOld
      obtain rfl : kept = list := by simpa using found
      exact ((keptMem pid).mp listed).2 rfl
    · rw [Function.update_noteq atOld] at found
      exact atOld ((inOld pid member).2 group list found listed)
  obtain ⟨onceNext, keptListed⟩ := once₁.push gone innerNew
  refine ⟨onceNext, fun other listed => ?_⟩
  by_cases isPid : other = pid
  · exact ⟨newPgid, _, Function.update_same _ _ _, isPid ▸ List.mem_append_right _ (List.mem_singleton_self _)⟩
  · refine keptListed other (listed.update fun before found member' => ?_)
    obtain rfl : old = before := Option.some.inj (hasOld.symm.trans found)
    exact (keptMem other).mpr ⟨member', isPid⟩

/-- `set_pgid_by_pid` moves the pid once, and leaves every other pid where it was. -/
theorem setPgidByPid_moves_pid {kernel : Kernel} {pid newPgid oldPgid : Pid} {old newList : List Pid}
    (hasOld : kernel.processGroupManager oldPgid = some old) (member : pid ∈ old)
    (once : AtMostOnce kernel.processGroupManager)
    (hasNew : kernel.processGroupManager newPgid = some newList) :
    ∃ next, setPgidByPid kernel pid newPgid oldPgid = some (next, false) ∧
      AtMostOnce next.processGroupManager ∧
      (∀ group list, next.processGroupManager group = some list → (pid ∈ list ↔ group = newPgid)) ∧
      ∀ other, other ≠ pid → ∀ group, (next.processGroupManager group).map (List.count other) =
        (kernel.processGroupManager group).map (List.count other) := by
  have moved := @setPgidByPid_of_listed _ pid _ _ _ _ hasOld (update_apply_of_some hasNew)
  refine ⟨_, moved, (AtMostOnce.setPgidByPid once hasOld member (by simp [hasNew]) moved).1, ?_⟩
  -- the list the pid is pushed onto counts every other pid as the new group's list did
  have pushed (other : Pid) (different : other ≠ pid) : (kernel.processGroupManager newPgid).map (List.count other) =
      some ((if newPgid = oldPgid then old.filter (fun listed => listed != pid) else newList).count other) := by
    by_cases same : newPgid = oldPgid <;> simp [same, hasOld, hasNew, count_filter_ne different]
  generalize (if newPgid = oldPgid then old.filter (fun listed => listed != pid) else newList) = pushedTo
    at pushed
  refine ⟨fun group list found => ?_, fun other different group => ?_⟩
  · -- the moved pid is in the new group's list only
    simp only [Function.update_apply] at found
    split_ifs at found with atNew atOld
    · cases found
      simp [atNew]
    · cases found
      exact iff_of_false (by simp [mem_filter_ne]) atNew
    · exact iff_of_false (fun listed => atOld ((once pid oldPgid old hasOld member).2 group list found listed)) atNew
  · -- a pid other than `pid` is in every group as often as before
    simp only [Function.update_apply]
    split_ifs with atNew atOld
    · rw [atNew, pushed other different]
      simp [List.count_singleton, Ne.symm different]
    · simp [atOld, hasOld, count_filter_ne different]
    · rfl

/-- `twoCpus` with group 5 holding pids 5 and 7, and group 9 holding 9. -/
def twoGroups : Kernel :=
  { twoCpus with
    processGroupManager := fun group =>
      if group = 5 then some [5, 7] else if group = 9 then some [9] else none }

/-- The two lists of `twoGroups`. -/
theorem twoGroups_lists {group : Pid} {list : List Pid} (found : twoGroups.processGroupManager group = some list) :
    group = 5 ∧ list = [5, 7] ∨ group = 9 ∧ list = [9] := by
  simp only [twoGroups] at found
  split_ifs at found with atFive atNine
  · exact .inl ⟨atFive, (Option.some.inj found).symm⟩
  · exact .inr ⟨atNine, (Option.some.inj found).symm⟩

/-- In `twoGroups` every pid is in one list, once. -/
theorem twoGroups_atMostOnce : AtMostOnce twoGroups.processGroupManager := by
  have disjoint : ∀ pid ∈ [5, 7], pid ∉ [9] := by decide
  refine fun pid group list found member => ⟨?_, fun other others found' member' => ?_⟩
  · rcases twoGroups_lists found with ⟨-, rfl⟩ | ⟨-, rfl⟩
    · rcases List.mem_pair.mp member with rfl | rfl <;> rfl
    · rw [List.mem_singleton.mp member]
      rfl
  · rcases twoGroups_lists found with ⟨rfl, rfl⟩ | ⟨rfl, rfl⟩ <;>
      rcases twoGroups_lists found' with ⟨rfl, rfl⟩ | ⟨rfl, rfl⟩
    · rfl
    · exact absurd member' (disjoint pid member)
    · exact absurd member (disjoint pid member')
    · rfl

theorem twoGroups_moves_pid :
    ∃ next, setPgidByPid twoGroups 7 9 5 = some (next, false) ∧ AtMostOnce next.processGroupManager ∧
      (∀ group list, next.processGroupManager group = some list → (7 ∈ list ↔ group = 9)) ∧
      ∀ other, other ≠ 7 → ∀ group, (next.processGroupManager group).map (List.count other) =
        (twoGroups.processGroupManager group).map (List.count other) :=
  setPgidByPid_moves_pid rfl (by decide) twoGroups_atMostOnce rfl

/-- The calls on the process-group table, each with what its caller must ensure. -/
inductive GroupStep (kernel : Kernel) : Kernel → Prop
  | newGroup (pgid : Pid) : kernel.processGroupManager pgid = none →
      ¬ Listed kernel.processGroupManager pgid → GroupStep kernel (addGroup kernel pgid)
  | join {next : Kernel} (pgid pid : Pid) : ¬ Listed kernel.processGroupManager pid →
      addProcess kernel pgid pid = some next → GroupStep kernel next
  | move {next : Kernel} {result : Bool} (pid newPgid oldPgid : Pid) (old : List Pid) :
      kernel.processGroupManager oldPgid = some old → pid ∈ old → kernel.processGroupManager newPgid ≠ none →
      setPgidByPid kernel pid newPgid oldPgid = some (next, result) → GroupStep kernel next

/-- What every guarded call keeps: unique pids, and every listed pid still listed. -/
theorem GroupStep.keeps {kernel next : Kernel} (once : AtMostOnce kernel.processGroupManager)
    (stepped : GroupStep kernel next) :
    AtMostOnce next.processGroupManager ∧
      ∀ pid, Listed kernel.processGroupManager pid → Listed next.processGroupManager pid := by
  cases stepped with
  | newGroup pgid absent unlisted =>
      refine ⟨once.update (fun pid member => ?_) (fun pid member group others _ found listed => ?_),
        fun pid listed => listed.update fun old found => absurd (absent.symm.trans found) Option.noConfusion⟩
      · split_ifs at member ⊢
        · rw [List.mem_singleton.mp member]
          simp
        · cases member
      · split_ifs at member
        · exact unlisted ⟨group, others, found, List.mem_singleton.mp member ▸ listed⟩
        · cases member
  | join pgid pid unlisted added =>
      simp only [addProcess, bind, Option.bind_eq_some, pure, Option.some.injEq] at added
      obtain ⟨vec, found, rfl⟩ := added
      exact once.push unlisted found
  | move pid newPgid oldPgid old hasOld member hasNew moved =>
      exact AtMostOnce.setPgidByPid once hasOld member hasNew moved

/-- Along guarded runs of group calls pids stay unique and none is lost. -/
theorem group_table_keeps_pids {start kernel : Kernel} (once : AtMostOnce start.processGroupManager)
    (reached : Relation.ReflTransGen GroupStep start kernel) :
    AtMostOnce kernel.processGroupManager ∧
      ∀ pid, Listed start.processGroupManager pid → Listed kernel.processGroupManager pid := by
  induction reached with
  | refl => exact ⟨once, fun _ listed => listed⟩
  | tail _ stepped holds =>
      have kept := stepped.keeps holds.1
      exact ⟨kept.1, fun pid listed => kept.2 pid (holds.2 pid listed)⟩

/-- `twoGroups` after `add_process` of pid 13 into the group of pgid 9. -/
def thirteenJoined : Kernel := (addProcess twoGroups 9 13).getD twoGroups

/-- `thirteenJoined` after pid 7 moves from group 5 to group 9. -/
def sevenMoved : Kernel := ((setPgidByPid thirteenJoined 7 9 5).map Prod.fst).getD thirteenJoined

theorem sevenMoved_keeps_pids :
    AtMostOnce sevenMoved.processGroupManager ∧
      ∀ pid, Listed twoGroups.processGroupManager pid → Listed sevenMoved.processGroupManager pid :=
  group_table_keeps_pids twoGroups_atMostOnce
    (.tail (.tail .refl (@GroupStep.join _ thirteenJoined 9 13 (fun ⟨_, _, found, member⟩ => by
        rcases twoGroups_lists found with ⟨-, rfl⟩ | ⟨-, rfl⟩ <;> simp at member) rfl))
      (@GroupStep.move _ sevenMoved false 7 9 5 [5, 7] rfl (by decide) (by decide) rfl))

end ProcessGroupManager

end DragonOS
