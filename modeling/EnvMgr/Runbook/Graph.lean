/-
The stored dependency graph.

Every stored edge joins two tasks of one plan that live and die together, and no
plan's live edges have a cycle. So the schedule of a stored plan can always be
computed: `topological_order` raises `CycleError` for a cycle and for nothing
else, and there is none.

The ready list, `runbook_execution_service.ready_clause`, is the predecessor rule said once more
in SQL. It reads the dependency rows without asking for their tenant or for the plan of the
predecessor, and the task guard reads them through `live_edges`, which asks for both.
-/
import EnvMgr.Runbook.Unblocked
import EnvMgr.Runbook.View

namespace EnvMgr.Runbook

variable {db' : Db} {p task : RunbookTask} {tenant_id : ℕ} {predecessor_ids : List ℕ}
  {plan : RunbookPlan} {now : DateTime}
variable {c : RunbookTask → Bool} {f : Table.Edit RunbookTask.id} {a b : RunbookTask}

/-! ## The invariant -/

/-- In the plan, the live task `t` waits for the live task `p`. -/
def Precedes (db : Db) (plan_id p t : ℕ) : Prop :=
  ∃ a b, HasPredecessor db a b ∧ a.plan_id = plan_id ∧ a.id = t ∧ b.id = p

/-- The tasks `t` and `p` that the edge joins. -/
structure Joins (db : Db) (d : RunbookTaskDependency) (t p : RunbookTask) : Prop where
  task_mem : t ∈ db.tasks
  pred_mem : p ∈ db.tasks
  task_id : t.id = d.task_id
  predecessor_id : p.id = d.predecessor_task_id
  same_plan : t.plan_id = p.plan_id
  together : t.deleted_at = none ↔ p.deleted_at = none

structure Woven (db : Db) : Prop where
  joined : ∀ d ∈ db.dependencies, ∃ t p, Joins db d t p
  acyclic : ∀ plan_id, Acyclic (Precedes db plan_id)

theorem woven_fresh (directory : Directory) : Woven (Db.fresh directory) where
  joined := by simp [Db.fresh]
  acyclic := by
    intro plan_id
    refine acyclic_of_rank (fun _ => 0) ?_
    rintro p t ⟨a, b, hab, -⟩
    exact absurd hab.task_mem (by simp [Db.fresh])

/-! ## Writes -/

/-- Dropping edges. -/
theorem Woven.of_fewer_edges {db : Db} (h : Woven db) (htasks : db'.tasks = db.tasks)
    (hedges : ∀ d ∈ db'.dependencies, d ∈ db.dependencies) : Woven db' where
  joined := by
    intro d hd
    obtain ⟨t, p, hj⟩ := h.joined d (hedges d hd)
    refine ⟨t, p, ?_, ?_, hj.task_id, hj.predecessor_id, hj.same_plan, hj.together⟩
    · rw [htasks]
      exact hj.task_mem
    · rw [htasks]
      exact hj.pred_mem
  acyclic := by
    intro plan_id
    refine (h.acyclic plan_id).mono ?_
    rintro p t ⟨a, b, hab, hplan, hat, hbp⟩
    obtain ⟨d, hd, hends⟩ := hab.edge
    have ha := hab.task_mem
    have hb := hab.pred_mem
    rw [htasks] at ha hb
    exact ⟨a, b, ⟨ha, hb, hab.task_live, hab.pred_live, hab.same_plan, d, hedges d hd, hends⟩,
      hplan, hat, hbp⟩

/-- **The update rule**: what an update of tasks has to respect is that the two
ends of an edge live or die together. -/
theorem Woven.update_tasks {db : Db} (h : Woven db) (hf : Keeps f.apply)
    (hedges : db'.dependencies = db.dependencies) (htasks : db'.tasks = db.tasks.update c f)
    (htogether : ∀ d ∈ db.dependencies, ∀ t p, Joins db d t p →
      ((if c t then f.apply t else t).deleted_at = none ↔
        (if c p then f.apply p else p).deleted_at = none)) : Woven db' where
  joined := by
    intro d hd
    rw [hedges] at hd
    obtain ⟨t, p, hj⟩ := h.joined d hd
    have hg : Keeps fun t => if c t then f.apply t else t := hf.ite c
    refine ⟨if c t then f.apply t else t, if c p then f.apply p else p, ?_, ?_, ?_, ?_, ?_,
      htogether d hd t p hj⟩
    · rw [htasks]
      exact Table.mem_update.2 ⟨t, hj.task_mem, rfl⟩
    · rw [htasks]
      exact Table.mem_update.2 ⟨p, hj.pred_mem, rfl⟩
    · rw [Keeps.ite_id, hj.task_id]
    · rw [Keeps.ite_id, hj.predecessor_id]
    · rw [hg.plan_id t, hg.plan_id p, hj.same_plan]
  acyclic := by
    intro plan_id
    refine (h.acyclic plan_id).mono ?_
    rintro p t ⟨a', b', hab, hplan, hat, hbp⟩
    obtain ⟨a, b, hjoined, rfl, rfl⟩ := hab.of_update hf hedges htasks
    rw [(hf.ite c).plan_id a] at hplan
    rw [Keeps.ite_id] at hat hbp
    exact ⟨a, b, hjoined, hplan, hat, hbp⟩

/-- An update that neither deletes nor revives. -/
theorem Woven.edit_tasks {db : Db} (h : Woven db) (hf : Keeps f.apply)
    (hedges : db'.dependencies = db.dependencies) (htasks : db'.tasks = db.tasks.update c f)
    (hlive : ∀ t, (f.apply t).deleted_at = t.deleted_at) : Woven db' := by
  have hsame : ∀ t, (if c t then f.apply t else t).deleted_at = t.deleted_at := by
    intro t
    by_cases hc : c t <;> simp [hc, hlive]
  refine h.update_tasks hf hedges htasks (fun d _ t p hj => ?_)
  rw [hsame, hsame]
  exact hj.together

/-- A new task has no edges yet. -/
theorem Woven.insert_task {db : Db} (hs : Sound db) (h : Woven db)
    (new : Table.New RunbookTask.id) : Woven { db with tasks := db.tasks.insert new } where
  joined := by
    intro d hd
    obtain ⟨t, p, hj⟩ := h.joined d hd
    exact ⟨t, p, Table.mem_insert.2 (Or.inl hj.task_mem), Table.mem_insert.2 (Or.inl hj.pred_mem),
      hj.task_id, hj.predecessor_id, hj.same_plan, hj.together⟩
  acyclic := by
    intro plan_id
    refine (h.acyclic plan_id).mono ?_
    rintro p t ⟨a, b, hab, hplan, hat, hbp⟩
    obtain ⟨d, hd, hda, hdb⟩ := hab.edge
    obtain ⟨hlt_a, hlt_b⟩ := hs.ends_of_edge d hd
    -- every edge was made before this key was drawn
    have hold : ∀ r ∈ db.tasks.insert new, r.id < db.tasks.next → r ∈ db.tasks := by
      intro r hr hlt
      rcases Table.mem_insert.1 hr with hr | rfl
      · exact hr
      · rw [new.key_row] at hlt
        exact absurd hlt (lt_irrefl _)
    have ha := hold a hab.task_mem (by rw [← hda]; exact hlt_a)
    have hb := hold b hab.pred_mem (by rw [← hdb]; exact hlt_b)
    exact ⟨a, b, ⟨ha, hb, hab.task_live, hab.pred_live, hab.same_plan, d, hd, hda, hdb⟩,
      hplan, hat, hbp⟩

/-- An edge of another plan is no new one. -/
theorem Rewired.kept {db : Db} (htask : task ∈ db.tasks)
    (hr : Rewired db db' task task.plan_id tenant_id predecessor_ids) (hab : HasPredecessor db' a b)
    (hplan : a.plan_id ≠ task.plan_id) :
    HasPredecessor db a b := by
  have htasks : db'.tasks = db.tasks := by rw [hr.frame]
  have ha := hab.task_mem
  have hb := hab.pred_mem
  rw [htasks] at ha hb
  obtain ⟨d, hd, hda, hdb⟩ := hab.edge
  rcases hr.edges d hd with ⟨hd, -⟩ | ⟨-, hdt, -⟩
  · exact ⟨ha, hb, hab.task_live, hab.pred_live, hab.same_plan, d, hd, hda, hdb⟩
  · rw [Table.eq_of_key_eq ha htask (hda.symm.trans hdt)] at hplan
    exact absurd rfl hplan

/-- The edges of the plan are the ones that were sorted. -/
theorem Rewired.sorted {db : Db} (hs : Sound db) (htask : task ∈ db.tasks)
    (htenant : task.tenant_id = tenant_id)
    (hr : Rewired db db' task task.plan_id tenant_id predecessor_ids) (hab : HasPredecessor db' a b)
    (haplan : a.plan_id = task.plan_id) :
    Waits ((live_tasks db task.plan_id tenant_id).map RunbookTask.id)
      ((live_edges db task.plan_id tenant_id).filter (fun e => e.1 ≠ task.id)
        ++ predecessor_ids.eraseDups.map fun i => (task.id, i)) b.id a.id := by
  have htasks : db'.tasks = db.tasks := by rw [hr.frame]
  have ha := hab.task_mem
  have hb := hab.pred_mem
  rw [htasks] at ha hb
  have hatenant : a.tenant_id = tenant_id := by
    rw [hs.same_tenant ha htask haplan, htenant]
  have hbplan : b.plan_id = task.plan_id := by rw [← hab.same_plan, haplan]
  have hbtenant : b.tenant_id = tenant_id := by
    rw [hs.same_tenant hb htask hbplan, htenant]
  have ha' : a.id ∈ (live_tasks db task.plan_id tenant_id).map RunbookTask.id :=
    List.mem_map.2 ⟨a, mem_live_tasks.2 ⟨ha, haplan, hatenant, hab.task_live⟩, rfl⟩
  have hb' : b.id ∈ (live_tasks db task.plan_id tenant_id).map RunbookTask.id :=
    List.mem_map.2 ⟨b, mem_live_tasks.2 ⟨hb, hbplan, hbtenant, hab.pred_live⟩, rfl⟩
  refine ⟨List.mem_append.2 ?_, ha', hb'⟩
  obtain ⟨d, hd, hda, hdb⟩ := hab.edge
  rcases hr.edges d hd with ⟨hd, hkept⟩ | ⟨-, hdt, hdp⟩
  · -- an edge that was there, of another task
    left
    have hold : HasPredecessor db a b :=
      ⟨ha, hb, hab.task_live, hab.pred_live, hab.same_plan, d, hd, hda, hdb⟩
    have hedge := hold.mem_live_edges hs
    rw [haplan, hatenant] at hedge
    refine List.mem_filter.2 ⟨hedge, ?_⟩
    have hne : a.id ≠ task.id := by
      intro heq
      refine hkept ⟨?_, hda.trans heq⟩
      rw [← hs.tenant_of_edge d hd a ha hda.symm, hatenant]
    simpa using hne
  · -- a new edge of the task
    right
    refine List.mem_map.2 ⟨b.id, List.mem_eraseDups.2 (by rw [← hdb]; exact hdp), ?_⟩
    rw [← hda, hdt]

/-- **A rewrite of the edges**: within the plan they are the ones that were just
sorted, and in the others they are what they were. -/
theorem Woven.rewired {db : Db} (hs : Sound db) (h : Woven db) (htask : task ∈ db.tasks)
    (hlive : task.deleted_at = none) (htenant : task.tenant_id = tenant_id)
    (hr : Rewired db db' task task.plan_id tenant_id predecessor_ids) : Woven db' where
  joined := by
    intro d hd
    have htasks : db'.tasks = db.tasks := by rw [hr.frame]
    rcases hr.edges d hd with ⟨hd, -⟩ | ⟨-, hdt, hdp⟩
    · obtain ⟨t, p, hj⟩ := h.joined d hd
      refine ⟨t, p, ?_, ?_, hj.task_id, hj.predecessor_id, hj.same_plan, hj.together⟩
      · rw [htasks]
        exact hj.task_mem
      · rw [htasks]
        exact hj.pred_mem
    · obtain ⟨p, hp, hpid, -⟩ := hr.live _ hdp
      obtain ⟨hpmem, hplan, -, hplive⟩ := mem_live_tasks.1 hp
      refine ⟨task, p, ?_, ?_, hdt.symm, hpid, hplan.symm, by rw [hlive, hplive]⟩
      · rw [htasks]
        exact htask
      · rw [htasks]
        exact hpmem
  acyclic := by
    intro plan_id
    by_cases hplan : plan_id = task.plan_id
    · subst hplan
      refine hr.acyclic.mono ?_
      rintro p t ⟨a, b, hab, haplan, rfl, rfl⟩
      exact hr.sorted hs htask htenant hab haplan
    · refine (h.acyclic plan_id).mono ?_
      rintro p t ⟨a, b, hab, haplan, hat, hbp⟩
      exact ⟨a, b, hr.kept htask hab (haplan ▸ hplan), haplan, hat, hbp⟩

/-! ## Requests -/

theorem Woven.create_plan {db : Db} (h : Woven db) {release_id : ℕ} {data : RunbookPlanCreate}
    (hok : create_plan db release_id tenant_id data = .ok db') :
    Woven db' := by
  simp only [Runbook.create_plan, bind_eq_ok, raise_if_eq_ok] at hok
  obtain ⟨_, -, _, -, _, -, hok⟩ := hok
  split at hok
  · cases hok
    exact h.of_fewer_edges rfl (fun _ hd => hd)
  · cases hok
    exact h.of_fewer_edges rfl (fun _ hd => hd)

theorem Woven.update_plan {db : Db} (h : Woven db) {data : RunbookPlanUpdate}
    (hok : update_plan db plan data = .ok db') : Woven db' := by
  simp only [Runbook.update_plan, bind_eq_ok, raise_if_eq_ok] at hok
  obtain ⟨_, -, _, -, hok⟩ := hok
  cases hok
  exact h.of_fewer_edges rfl (fun _ hd => hd)

/-- Deleting a plan deletes all of its live tasks, so both ends of its edges. -/
theorem Woven.delete_plan {db : Db} (hs : Sound db) (h : Woven db)
    (hok : delete_plan db plan tenant_id now = .ok db') :
    Woven db' := by
  simp only [Runbook.delete_plan, bind_eq_ok, raise_if_eq_ok] at hok
  obtain ⟨_, -, hok⟩ := hok
  cases hok
  refine h.update_tasks (keeps_delete now) rfl rfl (fun d hd t p hj => ?_)
  -- the ids are those of the live tasks and of no other row
  have hmem : ∀ r ∈ db.tasks, r.id ∈ (live_tasks db plan.id tenant_id).map RunbookTask.id ↔
      r ∈ live_tasks db plan.id tenant_id := by
    intro r hr
    constructor
    · intro hid
      obtain ⟨r', hr', heq⟩ := List.mem_map.1 hid
      rwa [← Table.eq_of_key_eq (mem_live_tasks.1 hr').1 hr heq]
    · intro hlive
      exact List.mem_map.2 ⟨r, hlive, rfl⟩
  -- so both ends of an edge are deleted, or neither is
  have hboth : t ∈ live_tasks db plan.id tenant_id ↔ p ∈ live_tasks db plan.id tenant_id := by
    rw [mem_live_tasks, mem_live_tasks, hj.same_plan,
      hs.same_tenant hj.task_mem hj.pred_mem hj.same_plan, hj.together]
    exact and_congr (iff_of_true hj.task_mem hj.pred_mem) Iff.rfl
  by_cases hp : p ∈ live_tasks db plan.id tenant_id
  · have ht := hboth.2 hp
    simp [hmem t hj.task_mem, hmem p hj.pred_mem, ht, hp]
  · have ht : t ∉ live_tasks db plan.id tenant_id := fun ht => hp (hboth.1 ht)
    simpa [hmem t hj.task_mem, hmem p hj.pred_mem, ht, hp] using hj.together

theorem Woven.set_predecessors {db : Db} (hs : Sound db) (h : Woven db)
    (hload : Loaded db tenant_id task plan)
    (hok : set_predecessors db task plan tenant_id predecessor_ids = .ok db') : Woven db' := by
  have hrewired := set_predecessors_ok hok
  rw [← hload.of_plan] at hrewired
  exact h.rewired hs hload.mem hload.live hload.tenant hrewired

theorem Woven.create_task {db : Db} (hs : Sound db) (h : Woven db) (hplan : plan ∈ db.plans)
    (htenant : plan.tenant_id = tenant_id) {data : RunbookTaskCreate}
    (hok : create_task db plan tenant_id data = .ok db') :
    Woven db' := by
  subst htenant
  simp only [Runbook.create_task, bind_eq_ok] at hok
  obtain ⟨_, -, _, -, hok⟩ := hok
  have hinsert := h.insert_task hs ⟨data.row plan.tenant_id plan.id, fun _ => rfl⟩
  split_ifs at hok
  · cases hok
    exact hinsert
  · -- the predecessors are set in the database that has the new task
    refine hinsert.set_predecessors (hs.insert_task hplan data) ?_ hok
    exact ⟨Table.mem_insert.2 (Or.inr rfl), rfl, rfl, rfl⟩

theorem Woven.update_task {db : Db} (h : Woven db) {data : RunbookTaskUpdate}
    (hok : update_task db task plan tenant_id data = .ok db') : Woven db' := by
  simp only [Runbook.update_task, bind_eq_ok] at hok
  obtain ⟨_, -, _, -, _, -, hok⟩ := hok
  cases hok
  exact h.edit_tasks data.keeps rfl rfl (fun _ => rfl)

/-- Deleting a task deletes its edges first, so no edge is left with one end. -/
theorem Woven.delete_task {db : Db} (hs : Sound db) (h : Woven db) (htask : task ∈ db.tasks)
    (htenant : task.tenant_id = tenant_id) (hok : delete_task db task tenant_id now = .ok db') :
    Woven db' := by
  simp only [Runbook.delete_task, bind_eq_ok, raise_if_eq_ok] at hok
  obtain ⟨_, -, hok⟩ := hok
  cases hok
  have hfewer : Woven { db with
      dependencies := db.dependencies.delete fun d =>
        d.tenant_id = tenant_id ∧ (d.task_id = task.id ∨ d.predecessor_task_id = task.id) } :=
    h.of_fewer_edges rfl (fun d hd => (Table.mem_delete.1 hd).1)
  refine hfewer.update_tasks (keeps_delete now) rfl rfl (fun d hd t p hj => ?_)
  obtain ⟨hd, hkept⟩ := Table.mem_delete.1 hd
  have hkept := of_decide_eq_false hkept
  -- an edge that was kept has the deleted task at neither end
  have hdtenant : d.tenant_id = t.tenant_id :=
    (hs.tenant_of_edge d hd t hj.task_mem hj.task_id).symm
  have hptenant : t.tenant_id = p.tenant_id := hs.same_tenant hj.task_mem hj.pred_mem hj.same_plan
  have ht : t.id ≠ task.id := by
    intro heq
    have htt : t = task := Table.eq_of_key_eq hj.task_mem htask heq
    exact hkept ⟨by rw [hdtenant, htt, htenant], Or.inl (hj.task_id.symm.trans heq)⟩
  have hp : p.id ≠ task.id := by
    intro heq
    have hpt : p = task := Table.eq_of_key_eq hj.pred_mem htask heq
    exact hkept ⟨by rw [hdtenant, hptenant, hpt, htenant],
      Or.inr (hj.predecessor_id.symm.trans heq)⟩
  simpa [ht, hp] using hj.together

theorem move_deleted_at (to_status : TaskStatus) (at_ : DateTime) (t : RunbookTask) :
    (move to_status at_ t).deleted_at = t.deleted_at := by
  unfold move
  dsimp only
  split_ifs <;> rfl

theorem Woven.transition {db : Db} (h : Woven db) {user : CurrentUser} {data : TransitionRequest}
    (hok : transition db task tenant_id user data now = .ok db') : Woven db' := by
  obtain ⟨-, -, -, at_, events, rfl⟩ := transition_ok hok
  exact h.edit_tasks (keeps_move data.to_status at_) rfl rfl (move_deleted_at data.to_status at_)

theorem Woven.handle {db : Db} (hs : Sound db) (h : Woven db) {request : Request}
    (hok : handle db request = .ok db') : Woven db' := by
  cases request with
  | create_runbook user release_id data =>
    simp only [Runbook.handle, bind_eq_ok] at hok
    obtain ⟨_, -, hok⟩ := hok
    exact h.create_plan hok
  | update_runbook user plan_id data =>
    simp only [Runbook.handle, bind_eq_ok] at hok
    obtain ⟨_, -, plan, -, hok⟩ := hok
    exact h.update_plan hok
  | delete_runbook user plan_id now =>
    simp only [Runbook.handle, bind_eq_ok] at hok
    obtain ⟨_, -, plan, -, hok⟩ := hok
    exact h.delete_plan hs hok
  | create_task user plan_id data =>
    simp only [Runbook.handle, bind_eq_ok] at hok
    obtain ⟨_, -, plan, hplan, hok⟩ := hok
    exact h.create_task hs (get_plan_ok hplan).1 (get_plan_ok hplan).2 hok
  | update_task user task_id data =>
    simp only [Runbook.handle, bind_eq_ok] at hok
    obtain ⟨_, -, row, -, hok⟩ := hok
    exact h.update_task hok
  | delete_task user task_id now =>
    simp only [Runbook.handle, bind_eq_ok] at hok
    obtain ⟨_, -, row, hrow, hok⟩ := hok
    exact h.delete_task hs (get_task_ok hrow).mem (get_task_ok hrow).tenant hok
  | set_predecessors user task_id predecessor_ids =>
    simp only [Runbook.handle, bind_eq_ok] at hok
    obtain ⟨_, -, row, hrow, hok⟩ := hok
    exact h.set_predecessors hs (get_task_ok hrow) hok
  | transition_task user task_id data now =>
    simp only [Runbook.handle, bind_eq_ok] at hok
    obtain ⟨row, -, hok⟩ := hok
    exact h.transition hok
  | directory rows =>
    cases hok
    exact h.of_fewer_edges rfl (fun _ hd => hd)

theorem woven_run (directory : Directory) (requests : List Request) :
    Sound (Runs.run step (Db.fresh directory) requests) ∧
      Woven (Runs.run step (Db.fresh directory) requests) := by
  have hstep : ∀ db request, Sound db ∧ Woven db →
      Sound (step db request) ∧ Woven (step db request) := by
    rintro db request ⟨hs, h⟩
    exact ⟨hs.step request, commit_or_rollback_keeps h fun _ hok => h.handle hs hok⟩
  exact Runs.run_inv hstep ⟨sound_fresh directory, woven_fresh directory⟩ requests

/-! ## Stored plans -/

theorem mem_live_edges {db : Db} (hs : Sound db) {plan_id : ℕ} {e : ℕ × ℕ}
    (he : e ∈ live_edges db plan_id tenant_id) :
    ∃ t ∈ live_tasks db plan_id tenant_id, ∃ p ∈ live_tasks db plan_id tenant_id,
      e = (t.id, p.id) ∧ HasPredecessor db t p := by
  obtain ⟨d, hd, rfl⟩ := List.mem_map.1 he
  rw [mem_order_by, Table.mem_select] at hd
  obtain ⟨hd, hcond⟩ := hd
  obtain ⟨htenant, ⟨t, ht, htid, htplan, htlive⟩, p, hp, hpid, hpplan, hplive⟩ :=
    of_decide_eq_true hcond
  have htt : t.tenant_id = tenant_id := (hs.tenant_of_edge d hd t ht htid).trans htenant
  have hpt : p.tenant_id = tenant_id := by
    rw [← hs.same_tenant ht hp (htplan.trans hpplan.symm), htt]
  refine ⟨t, mem_live_tasks.2 ⟨ht, htplan, htt, htlive⟩, p,
    mem_live_tasks.2 ⟨hp, hpplan, hpt, hplive⟩, by rw [htid, hpid], ?_⟩
  exact ⟨ht, hp, htlive, hplive, htplan.trans hpplan.symm, d, hd, htid.symm, hpid.symm⟩

theorem Woven.live_edges_acyclic {db : Db} (hs : Sound db) (h : Woven db) (plan_id tenant_id : ℕ) :
    Acyclic fun p t => (t, p) ∈ live_edges db plan_id tenant_id := by
  refine (h.acyclic plan_id).mono (fun p t hpt => ?_)
  obtain ⟨a, ha, b, -, heq, hab⟩ := mem_live_edges hs hpt
  obtain ⟨rfl, rfl⟩ := Prod.mk.inj heq
  exact ⟨a, b, hab, (mem_live_tasks.1 ha).2.1, rfl, rfl⟩

/-- `compute` raises nothing but the `CycleError` of its tasks and edges. -/
theorem compute_ok {anchor : DateTime} {tasks : List TaskInput} {edges : List (ℕ × ℕ)}
    (h : Acyclic fun p t => (t, p) ∈ edges) :
    ∃ schedule, compute anchor tasks edges now = .ok schedule := by
  have hwaits : Acyclic (Waits (tasks.map TaskInput.id) (known_edges tasks edges)) :=
    h.mono (fun p t hpt => (List.mem_filter.1 hpt.1).1)
  obtain ⟨order, horder, -⟩ := topological_order_ok hwaits
  simp only [compute, horder]
  exact ⟨_, rfl⟩

/-- What is sound about a stored plan. -/
structure PlanSound (db : Db) (plan : RunbookPlan) : Prop where
  acyclic : Acyclic fun p t => (t, p) ∈ live_edges db plan.id plan.tenant_id
  joins_live_tasks : ∀ e ∈ live_edges db plan.id plan.tenant_id,
    ∃ t ∈ live_tasks db plan.id plan.tenant_id, ∃ p ∈ live_tasks db plan.id plan.tenant_id,
      e = (t.id, p.id)
  sorts : ∃ order, topological_order ((live_tasks db plan.id plan.tenant_id).map RunbookTask.id)
    (live_edges db plan.id plan.tenant_id) = .ok order
  computes : ∀ anchor now, ∃ schedule, compute anchor
    ((live_tasks db plan.id plan.tenant_id).map _input) (live_edges db plan.id plan.tenant_id) now
      = .ok schedule
  reads : ∀ user now, ∃ board, read db plan plan.tenant_id user now = .ok board

theorem Woven.plan_sound {db : Db} (hs : Sound db) (h : Woven db) (plan : RunbookPlan) :
    PlanSound db plan := by
  have hacyclic := h.live_edges_acyclic hs plan.id plan.tenant_id
  refine ⟨hacyclic, fun e he => ?_, ?_, fun _ _ => compute_ok hacyclic, fun user now => ?_⟩
  · obtain ⟨t, ht, p, hp, heq, -⟩ := mem_live_edges hs he
    exact ⟨t, ht, p, hp, heq⟩
  · exact topological_order_ok_iff.2 (hacyclic.mono (fun _ _ hpt => hpt.1))
  · have hshown : Acyclic fun p t => (t, p) ∈ shown_edges db plan.id plan.tenant_id :=
      hacyclic.mono (fun _ _ hpt => (List.mem_filter.1 hpt).1)
    obtain ⟨schedule, hschedule⟩ : ∃ schedule, compute plan.anchor_start_at
        ((live_tasks db plan.id plan.tenant_id).map _input)
        (shown_edges db plan.id plan.tenant_id) now = .ok schedule := compute_ok hshown
    simp only [read, hschedule]
    exact ⟨_, rfl⟩

/-- **Stored plans have no cycle.** Whatever requests are made, the live edges of
every plan join live tasks of that plan and have no cycle, so its schedule can be
computed; a stored edge always has both of its ends or neither. And of any tasks
and edges at all, `topological_order` returns each task once, after those it
waits for, if there is no cycle, and raises `CycleError` if there is one. -/
theorem stored_plans_are_acyclic :
    (∀ (directory : Directory) (requests : List Request),
      (∀ plan ∈ (Runs.run step (Db.fresh directory) requests).plans,
        PlanSound (Runs.run step (Db.fresh directory) requests) plan) ∧
      ∀ d ∈ (Runs.run step (Db.fresh directory) requests).dependencies,
        ∃ t p, Joins (Runs.run step (Db.fresh directory) requests) d t p) ∧
    ∀ (task_ids : List ℕ) (edges : List (ℕ × ℕ)),
      (Acyclic (Waits task_ids edges) → ∃ order, topological_order task_ids edges = .ok order ∧
        Topological task_ids edges order) ∧
      ((∃ left, topological_order task_ids edges = .error left) ↔
        ¬ Acyclic (Waits task_ids edges)) := by
  constructor
  · intro directory requests
    obtain ⟨hs, h⟩ := woven_run directory requests
    exact ⟨fun plan _ => h.plan_sound hs plan, h.joined⟩
  · intro task_ids edges
    refine ⟨topological_order_ok, ?_⟩
    rw [← topological_order_ok_iff]
    cases topological_order task_ids edges with
    | error left => simp
    | ok order => simp

/-! ## The ready list -/

def ready_clause (db : Db) (t : RunbookTask) : Bool :=
  t.status = .not_started ∧ t.deleted_at = none ∧
    ¬ ∃ d ∈ db.dependencies.rows, ∃ pred ∈ db.tasks.rows,
      d.task_id = t.id ∧ d.predecessor_task_id = pred.id ∧ pred.deleted_at = none ∧
        pred.status ∉ SATISFIED_STATUSES

section

variable {db : Db} {t : RunbookTask}

/-- A dependency row of a live task that leads to a live task joins two tasks of one plan. -/
theorem hasPredecessor_iff (h : Woven db) (ht : t ∈ db.tasks) (hlive : t.deleted_at = none)
    (hp : p ∈ db.tasks) :
    HasPredecessor db t p ↔ p.deleted_at = none ∧
      ∃ d ∈ db.dependencies, d.task_id = t.id ∧ d.predecessor_task_id = p.id := by
  constructor
  · intro htp
    exact ⟨htp.pred_live, htp.edge⟩
  · rintro ⟨hplive, d, hd, hdt, hdp⟩
    obtain ⟨a, b, hj⟩ := h.joined d hd
    obtain rfl : a = t := Table.eq_of_key_eq hj.task_mem ht (hj.task_id.trans hdt)
    obtain rfl : b = p := Table.eq_of_key_eq hj.pred_mem hp (hj.predecessor_id.trans hdp)
    exact ⟨ht, hp, hlive, hplive, hj.same_plan, d, hd, hdt, hdp⟩

theorem mem_live_edges_iff (hs : Sound db) (ht : t ∈ db.tasks) (hp : p ∈ db.tasks) :
    (t.id, p.id) ∈ live_edges db t.plan_id t.tenant_id ↔ HasPredecessor db t p := by
  constructor
  · intro he
    obtain ⟨a, ha, b, hb, heq, hab⟩ := mem_live_edges hs he
    obtain ⟨hta, hpb⟩ := Prod.mk.inj heq
    obtain rfl := Table.eq_of_key_eq ht (mem_live_tasks.1 ha).1 hta
    obtain rfl := Table.eq_of_key_eq hp (mem_live_tasks.1 hb).1 hpb
    exact hab
  · exact fun htp => htp.mem_live_edges hs

/-- The predecessors that the task guard reads. -/
theorem mem_neighbours_iff (hs : Sound db) (ht : t ∈ db.tasks) :
    p ∈ (_neighbours db t t.tenant_id).1 ↔ HasPredecessor db t p := by
  constructor
  · intro hp
    obtain ⟨e, he, hfind⟩ := List.mem_filterMap.1 hp
    obtain ⟨he, htask⟩ := List.mem_filter.1 he
    obtain ⟨he, -⟩ := List.mem_filter.1 he
    have hpmem := (mem_live_tasks.1 (List.mem_of_find?_eq_some hfind)).1
    have hpid : p.id = e.2 := by simpa using List.find?_some hfind
    have heq : e = (t.id, p.id) := Prod.ext (of_decide_eq_true htask) hpid.symm
    exact (mem_live_edges_iff hs ht hpmem).1 (heq ▸ he)
  · exact fun htp => (htp.mem_neighbours hs).1

theorem ready_clause_iff (h : Woven db) (ht : t ∈ db.tasks) :
    ready_clause db t = true ↔ t.deleted_at = none ∧ t.status = .not_started ∧
      ∀ p, HasPredecessor db t p → p.status ∈ SATISFIED_STATUSES := by
  rw [ready_clause, decide_eq_true_eq]
  constructor
  · rintro ⟨hstatus, hlive, hnone⟩
    refine ⟨hlive, hstatus, fun p htp => ?_⟩
    by_contra hnot
    obtain ⟨d, hd, hdt, hdp⟩ := htp.edge
    exact hnone ⟨d, hd, p, htp.pred_mem, hdt, hdp, htp.pred_live, hnot⟩
  · rintro ⟨hlive, hstatus, hall⟩
    refine ⟨hstatus, hlive, ?_⟩
    rintro ⟨d, hd, p, hp, hdt, hdp, hplive, hnot⟩
    exact hnot (hall p ((hasPredecessor_iff h ht hlive hp).2 ⟨hplive, d, hd, hdt, hdp⟩))

/-- A start asks for a manager or the team, and for the predecessors. -/
theorem start_offered_iff {pred_statuses succ_statuses : List TaskStatus} {team_member : Bool} :
    .in_progress ∈ allowed_transitions .not_started pred_statuses succ_statuses true team_member ↔
      ∀ s ∈ pred_statuses, s ∈ SATISFIED_STATUSES := by
  rw [mem_allowed_transitions]
  constructor
  · intro h
    exact h.predecessors (by decide)
  · intro h
    exact ⟨by decide, fun _ => rfl, fun _ => Or.inl rfl, fun _ => h,
      fun hpair => absurd hpair (by decide)⟩

end

/-- The clause selects the live tasks that have not started and whose predecessors, as
`live_edges` reports them, are all done or skipped; that is, those whose start is offered to
a manager. -/
structure GuardsAgree (db : Db) (t : RunbookTask) : Prop where
  by_edges : ready_clause db t = true ↔ t.deleted_at = none ∧ t.status = .not_started ∧
    ∀ p ∈ db.tasks, (t.id, p.id) ∈ live_edges db t.plan_id t.tenant_id →
      p.status ∈ SATISFIED_STATUSES
  by_offer : ∀ team_member, ready_clause db t = true ↔
    t.deleted_at = none ∧ t.status = .not_started ∧
      .in_progress ∈ allowed_transitions t.status
        ((_neighbours db t t.tenant_id).1.map RunbookTask.status)
        ((_neighbours db t t.tenant_id).2.map RunbookTask.status) true team_member

theorem Woven.guards_agree {db : Db} (hs : Sound db) (h : Woven db) {t : RunbookTask}
    (ht : t ∈ db.tasks) : GuardsAgree db t := by
  constructor
  · rw [ready_clause_iff h ht]
    refine and_congr_right fun _ => and_congr_right fun _ => ?_
    constructor
    · intro hall p hp he
      exact hall p ((mem_live_edges_iff hs ht hp).1 he)
    · intro hall p htp
      exact hall p htp.pred_mem ((mem_live_edges_iff hs ht htp.pred_mem).2 htp)
  · intro team_member
    rw [ready_clause_iff h ht]
    refine and_congr_right fun _ => and_congr_right fun hstatus => ?_
    rw [hstatus, start_offered_iff]
    constructor
    · intro hall s hmem
      obtain ⟨p, hp, rfl⟩ := List.mem_map.1 hmem
      exact hall p ((mem_neighbours_iff hs ht).1 hp)
    · intro hall p htp
      exact hall p.status (List.mem_map_of_mem ((mem_neighbours_iff hs ht).2 htp))

/-- **The ready list is the task guard.** Whatever requests are made of the runbooks, of
every task. -/
theorem ready_list_is_task_guard (directory : Directory) (requests : List Request) :
    let db := Runs.run step (Db.fresh directory) requests
    ∀ t : { t // t ∈ db.tasks }, GuardsAgree db t := by
  rintro db ⟨t, ht⟩
  obtain ⟨hs, h⟩ := woven_run directory requests
  exact h.guards_agree hs ht

end EnvMgr.Runbook
