/-
No task has started ahead of its predecessors.

The rule is guarded in three places: a start reads the predecessors, a reopening
reads the successors, and a rewrite of the edges reads the status of both ends.
None of the three knows of the other two. Here they are joined into one
invariant, with the bookkeeping it needs carried beside it (tasks belong to
plans of their tenant, and edges to the tenant of their task, so the
tenant-filtered reads of the services miss no neighbour), and shown to survive
every request.
-/
import EnvMgr.Runbook.Execution

namespace EnvMgr.Runbook

variable {db db' : Db} {p t : RunbookTask}
variable {tenant_id : ℕ} {f : Table.Edit RunbookTask.id} {c : RunbookTask → Bool}

/-! ## The invariant -/

/-- `p` is a live predecessor of the live task `t`: an edge joins them and both
are tasks of one plan. -/
structure HasPredecessor (db : Db) (t p : RunbookTask) : Prop where
  task_mem : t ∈ db.tasks
  pred_mem : p ∈ db.tasks
  task_live : t.deleted_at = none
  pred_live : p.deleted_at = none
  same_plan : t.plan_id = p.plan_id
  edge : ∃ d ∈ db.dependencies, d.task_id = t.id ∧ d.predecessor_task_id = p.id

/-- The statuses of a task that has been started and not skipped. -/
def STARTED : List TaskStatus := [.in_progress, .done, .failed]

/-- No started task waits on an unsatisfied one. -/
def Unblocked (db : Db) : Prop :=
  ∀ t p, HasPredecessor db t p → t.status ∈ STARTED → p.status ∈ SATISFIED_STATUSES

/-- The invariant, with what it rests on. -/
structure Sound (db : Db) : Prop where
  plan_of_task : ∀ t ∈ db.tasks, ∃ p ∈ db.plans, p.id = t.plan_id ∧ p.tenant_id = t.tenant_id
  tenant_of_edge : ∀ d ∈ db.dependencies, ∀ t ∈ db.tasks,
    t.id = d.task_id → t.tenant_id = d.tenant_id
  ends_of_edge : ∀ d ∈ db.dependencies,
    d.task_id < db.tasks.next ∧ d.predecessor_task_id < db.tasks.next
  unblocked : Unblocked db

theorem sound_fresh (directory : Directory) : Sound (Db.fresh directory) where
  plan_of_task := by simp [Db.fresh]
  tenant_of_edge := by simp [Db.fresh]
  ends_of_edge := by simp [Db.fresh]
  unblocked := by
    intro t p h
    exact absurd h.task_mem (by simp [Db.fresh])

theorem Sound.same_tenant (h : Sound db)
    (ht : t ∈ db.tasks) (hp : p ∈ db.tasks) (hplan : t.plan_id = p.plan_id) :
    t.tenant_id = p.tenant_id := by
  obtain ⟨q, hq, hqid, hqt⟩ := h.plan_of_task t ht
  obtain ⟨q', hq', hqid', hqt'⟩ := h.plan_of_task p hp
  have : q = q' := Table.eq_of_key_eq hq hq' (by rw [hqid, hqid', hplan])
  rw [← hqt, ← hqt', this]

/-! ## What the reads return -/

theorem mem_live_tasks {plan_id : ℕ} :
    t ∈ live_tasks db plan_id tenant_id ↔
      t ∈ db.tasks ∧ t.plan_id = plan_id ∧ t.tenant_id = tenant_id ∧ t.deleted_at = none := by
  simp [live_tasks]

theorem find_live_task (ht : t ∈ db.tasks) (hlive : t.deleted_at = none) :
    ((live_tasks db t.plan_id t.tenant_id).find? fun r => r.id = t.id) = some t := by
  have hmem : t ∈ live_tasks db t.plan_id t.tenant_id := mem_live_tasks.2 ⟨ht, rfl, rfl, hlive⟩
  cases hfind : (live_tasks db t.plan_id t.tenant_id).find? fun r => r.id = t.id with
  | none => exact absurd (List.find?_eq_none.1 hfind t hmem) (by simp)
  | some r =>
    have hr : r ∈ db.tasks := (mem_live_tasks.1 (List.mem_of_find?_eq_some hfind)).1
    have hid : r.id = t.id := by simpa using List.find?_some hfind
    rw [Table.eq_of_key_eq hr ht hid]

theorem HasPredecessor.mem_live_edges (h : Sound db)
    (htp : HasPredecessor db t p) : (t.id, p.id) ∈ live_edges db t.plan_id t.tenant_id := by
  obtain ⟨d, hd, hdt, hdp⟩ := htp.edge
  have htenant : d.tenant_id = t.tenant_id :=
    (h.tenant_of_edge d hd t htp.task_mem hdt.symm).symm
  have hlive_t : is_live_in db t.plan_id d.task_id :=
    ⟨t, htp.task_mem, hdt.symm, rfl, htp.task_live⟩
  have hlive_p : is_live_in db t.plan_id d.predecessor_task_id :=
    ⟨p, htp.pred_mem, hdp.symm, htp.same_plan.symm, htp.pred_live⟩
  refine List.mem_map.2 ⟨d, ?_, by rw [hdt, hdp]⟩
  rw [mem_order_by, Table.mem_select]
  exact ⟨hd, by simpa using ⟨htenant, hlive_t, hlive_p⟩⟩

/-- **`_neighbours` misses no neighbour**: the predecessor is among the first
list of the task, and the task among the second list of its predecessor. -/
theorem HasPredecessor.mem_neighbours (h : Sound db) (htp : HasPredecessor db t p) :
    p ∈ (_neighbours db t t.tenant_id).1 ∧ t ∈ (_neighbours db p p.tenant_id).2 := by
  have hedge := htp.mem_live_edges h
  have htenant : t.tenant_id = p.tenant_id :=
    h.same_tenant htp.task_mem htp.pred_mem htp.same_plan
  have hfind_t := find_live_task htp.task_mem htp.task_live
  have hfind_p := find_live_task htp.pred_mem htp.pred_live
  -- the two calls read the tasks of one plan in one tenant
  rw [htp.same_plan, htenant] at hfind_t hedge
  constructor
  · rw [_neighbours, htp.same_plan, htenant]
    refine List.mem_filterMap.2 ⟨(t.id, p.id), ?_, hfind_p⟩
    simp [hedge, hfind_t, hfind_p, -List.find?_isSome]
  · refine List.mem_filterMap.2 ⟨(t.id, p.id), ?_, hfind_t⟩
    simp [hedge, hfind_t, hfind_p, -List.find?_isSome]

theorem get_plan_ok {plan_id : ℕ} {plan : RunbookPlan}
    (h : get_plan db plan_id tenant_id = .ok plan) :
    plan ∈ db.plans ∧ plan.tenant_id = tenant_id := by
  obtain ⟨hmem, hp⟩ := Table.select_one_some (get_or_raise_eq_ok.1 h)
  exact ⟨hmem, (of_decide_eq_true hp).2.1⟩

/-- What `get_task` hands to the services. -/
structure Loaded (db : Db) (tenant_id : ℕ) (task : RunbookTask) (plan : RunbookPlan) :
    Prop where
  mem : task ∈ db.tasks
  live : task.deleted_at = none
  tenant : task.tenant_id = tenant_id
  of_plan : task.plan_id = plan.id

theorem get_task_ok {task_id : ℕ} {row : RunbookTask × RunbookPlan}
    (h : get_task db task_id tenant_id = .ok row) : Loaded db tenant_id row.1 row.2 := by
  have h := get_or_raise_eq_ok.1 h
  simp only [Option.bind_eq_bind, Option.bind_eq_some_iff, Option.some.injEq] at h
  obtain ⟨task, htask, plan, hplan, rfl⟩ := h
  obtain ⟨hmem, ht⟩ := Table.select_one_some htask
  obtain ⟨-, hp⟩ := Table.select_one_some hplan
  obtain ⟨-, htenant, hlive⟩ := of_decide_eq_true ht
  exact ⟨hmem, hlive, htenant, (of_decide_eq_true hp).1.symm⟩

/-! ## Changes that start nothing -/

/-- The same plan, of the same tenant. -/
def SamePlan (p p' : RunbookPlan) : Prop := p'.id = p.id ∧ p'.tenant_id = p.tenant_id

theorem SamePlan.refl (p : RunbookPlan) : SamePlan p p := ⟨rfl, rfl⟩

/-- Dropping edges and revising plans keeps the invariant, as long as no plan
goes away or changes tenant. -/
theorem Sound.of_fewer_edges (h : Sound db) (htasks : db'.tasks = db.tasks)
    (hplans : Table.Retains SamePlan db.plans db'.plans)
    (hedges : ∀ d ∈ db'.dependencies, d ∈ db.dependencies) : Sound db' where
  plan_of_task := by
    intro t ht
    rw [htasks] at ht
    obtain ⟨p, hp, hid, htenant⟩ := h.plan_of_task t ht
    obtain ⟨p', hp', hid', htenant'⟩ := hplans p hp
    exact ⟨p', hp', hid'.trans hid, htenant'.trans htenant⟩
  tenant_of_edge := by
    intro d hd
    rw [htasks]
    exact h.tenant_of_edge d (hedges d hd)
  ends_of_edge := by
    intro d hd
    rw [htasks]
    exact h.ends_of_edge d (hedges d hd)
  unblocked := by
    intro t p htp
    obtain ⟨d, hd, hends⟩ := htp.edge
    have ht := htp.task_mem
    have hp := htp.pred_mem
    rw [htasks] at ht hp
    exact h.unblocked t p ⟨ht, hp, htp.task_live, htp.pred_live, htp.same_plan,
      d, hedges d hd, hends⟩

/-- Writing on plans, as long as none changes tenant. -/
theorem Sound.edit_plans (h : Sound db) (c : RunbookPlan → Bool)
    {f : Table.Edit RunbookPlan.id} (hf : ∀ p, (f.apply p).tenant_id = p.tenant_id) :
    Sound { db with plans := db.plans.update c f } := by
  refine h.of_fewer_edges rfl ?_ (fun _ hd => hd)
  exact Table.retains_update SamePlan.refl db.plans c (fun p => ⟨f.key_apply p, hf p⟩)

/-- An update of some tasks that moves none of them to another plan or tenant
and brings none back to life. -/
structure Keeps (f : RunbookTask → RunbookTask) : Prop where
  plan_id : ∀ t, (f t).plan_id = t.plan_id
  tenant_id : ∀ t, (f t).tenant_id = t.tenant_id
  live : ∀ t, (f t).deleted_at = none → t.deleted_at = none

theorem Keeps.ite {f : RunbookTask → RunbookTask} (hf : Keeps f) (c : RunbookTask → Bool) :
    Keeps fun t => if c t then f t else t where
  plan_id := by intro t; by_cases hc : c t <;> simp [hc, hf.plan_id]
  tenant_id := by intro t; by_cases hc : c t <;> simp [hc, hf.tenant_id]
  live := by
    intro t
    by_cases hc : c t
    · simpa [hc] using hf.live t
    · simp [hc]

/-- What such an update makes of each task. -/
theorem Keeps.ite_id (c : RunbookTask → Bool) (t : RunbookTask) :
    (if c t then f.apply t else t).id = t.id := by
  by_cases hc : c t <;> simp [hc, f.key_apply]

/-- A pair joined after such an update was joined before, since no task changed
plan or came back to life. -/
theorem HasPredecessor.of_update (hf : Keeps f.apply) (hedges : db'.dependencies = db.dependencies)
    (htasks : db'.tasks = db.tasks.update c f) {t' p' : RunbookTask}
    (htp : HasPredecessor db' t' p') :
    ∃ t p, HasPredecessor db t p ∧ (if c t then f.apply t else t) = t' ∧
      (if c p then f.apply p else p) = p' := by
  have hg : Keeps fun t => if c t then f.apply t else t := hf.ite c
  have ht' := htp.task_mem
  have hp' := htp.pred_mem
  rw [htasks] at ht' hp'
  obtain ⟨t, ht, rfl⟩ := Table.mem_update.1 ht'
  obtain ⟨p, hp, rfl⟩ := Table.mem_update.1 hp'
  obtain ⟨d, hd, hdt, hdp⟩ := htp.edge
  rw [hedges] at hd
  rw [Keeps.ite_id] at hdt hdp
  have hplan := htp.same_plan
  rw [hg.plan_id t, hg.plan_id p] at hplan
  refine ⟨t, p, ?_, rfl, rfl⟩
  exact
    { task_mem := ht
      pred_mem := hp
      task_live := hg.live t htp.task_live
      pred_live := hg.live p htp.pred_live
      same_plan := hplan
      edge := ⟨d, hd, hdt, hdp⟩ }

/-- **The update rule.** After such an update the invariant has only to be
checked where it could fail: on the pairs that were joined before, with the
statuses they have now. -/
theorem Sound.update_tasks (h : Sound db) (hf : Keeps f.apply) (hplans : db'.plans = db.plans)
    (hedges : db'.dependencies = db.dependencies) (htasks : db'.tasks = db.tasks.update c f)
    (hstatus : ∀ t p, HasPredecessor db t p →
      (if c t then f.apply t else t).status ∈ STARTED →
      (if c p then f.apply p else p).status ∈ SATISFIED_STATUSES) :
    Sound db' := by
  have hg : Keeps fun t => if c t then f.apply t else t := hf.ite c
  constructor
  · intro t' ht'
    rw [htasks] at ht'
    rw [hplans]
    obtain ⟨t, ht, rfl⟩ := Table.mem_update.1 ht'
    obtain ⟨p, hp, hpid, htenant⟩ := h.plan_of_task t ht
    refine ⟨p, hp, ?_, ?_⟩
    · rw [hpid, hg.plan_id t]
    · rw [htenant, hg.tenant_id t]
  · intro d hd t' ht' hdt
    rw [hedges] at hd
    rw [htasks] at ht'
    obtain ⟨t, ht, rfl⟩ := Table.mem_update.1 ht'
    rw [Keeps.ite_id] at hdt
    rw [hg.tenant_id t]
    exact h.tenant_of_edge d hd t ht hdt
  · rw [hedges, htasks]
    exact h.ends_of_edge
  · intro t' p' htp
    obtain ⟨t, p, hjoined, rfl, rfl⟩ := htp.of_update hf hedges htasks
    exact hstatus t p hjoined

/-- An update that leaves every status alone. -/
theorem Sound.edit_tasks (h : Sound db) (hf : Keeps f.apply) (hplans : db'.plans = db.plans)
    (hedges : db'.dependencies = db.dependencies) (htasks : db'.tasks = db.tasks.update c f)
    (hstatus : ∀ t, (f.apply t).status = t.status) : Sound db' := by
  have hsame : ∀ t, (if c t then f.apply t else t).status = t.status := by
    intro t
    by_cases hc : c t <;> simp [hc, hstatus]
  refine h.update_tasks hf hplans hedges htasks (fun t p htp hstarted => ?_)
  rw [hsame] at hstarted ⊢
  exact h.unblocked t p htp hstarted

theorem keeps_delete (now : DateTime) :
    Keeps fun t => { t with deleted_at := some now } :=
  ⟨fun _ => rfl, fun _ => rfl, by simp⟩

theorem RunbookTaskUpdate.keeps (data : RunbookTaskUpdate) : Keeps data.write :=
  ⟨fun _ => rfl, fun _ => rfl, fun _ h => h⟩

theorem keeps_move (to_status : TaskStatus) (at_ : DateTime) : Keeps (move to_status at_) where
  plan_id := by intro t; unfold move; dsimp only; split_ifs <;> rfl
  tenant_id := by intro t; unfold move; dsimp only; split_ifs <;> rfl
  live := by intro t h; unfold move at h; dsimp only at h; split_ifs at h <;> exact h

@[simp] theorem move_status (to_status : TaskStatus) (at_ : DateTime) (t : RunbookTask) :
    (move to_status at_ t).status = to_status := rfl

end EnvMgr.Runbook
