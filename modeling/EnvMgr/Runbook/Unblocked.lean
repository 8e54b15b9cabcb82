/-
Every request keeps the precedence rule.

One lemma for each service function says that a call that succeeds leaves a
sound database sound; a request is one of them behind its look-ups, and a run
is a list of requests.
-/
import EnvMgr.Runbook.Invariant

namespace EnvMgr.Runbook

variable {db db' : Db} {plan : RunbookPlan} {now : DateTime} {task : RunbookTask}
variable {data : TransitionRequest} {task_id : ℕ}
  {t t' : Table RunbookTaskDependency RunbookTaskDependency.id} {d : RunbookTaskDependency}
  {predecessor_ids : List ℕ} {user : CurrentUser} {frm to_status : TaskStatus}
variable {tenant_id : ℕ}

/-! ## Plans -/

theorem Sound.create_plan (h : Sound db) {release_id : ℕ} {data : RunbookPlanCreate}
    (hok : create_plan db release_id tenant_id data = .ok db') :
    Sound db' := by
  simp only [Runbook.create_plan, bind_eq_ok, raise_if_eq_ok] at hok
  obtain ⟨_, -, _, -, _, -, hok⟩ := hok
  -- a slot is revived, or the first plan for this environment is inserted
  split at hok
  · cases hok
    exact h.edit_plans _ (fun _ => rfl)
  · cases hok
    exact h.of_fewer_edges rfl (Table.retains_insert SamePlan.refl _ _) (fun _ hd => hd)

theorem Sound.update_plan (h : Sound db)
    {data : RunbookPlanUpdate} (hok : update_plan db plan data = .ok db') : Sound db' := by
  simp only [Runbook.update_plan, bind_eq_ok, raise_if_eq_ok] at hok
  obtain ⟨_, -, _, -, hok⟩ := hok
  cases hok
  exact h.edit_plans _ (fun _ => rfl)

theorem Sound.delete_plan (h : Sound db) (hok : delete_plan db plan tenant_id now = .ok db') :
    Sound db' := by
  simp only [Runbook.delete_plan, bind_eq_ok, raise_if_eq_ok] at hok
  obtain ⟨_, -, hok⟩ := hok
  cases hok
  -- the plan's own row is stamped first, then the rows of its tasks
  have hstamped : Sound { db with
      plans := db.plans.update (fun p => p.id = plan.id)
        ⟨fun p => { p with deleted_at := some now }, fun _ => rfl⟩ } :=
    h.edit_plans _ (fun _ => rfl)
  exact hstamped.edit_tasks (keeps_delete now) rfl rfl rfl (fun _ => rfl)

/-! ## Dependencies -/

theorem add_dependency_mem {i : ℕ} (hok : add_dependency tenant_id task_id t i = .ok t')
    (hd : d ∈ t') :
    d ∈ t ∨ d.tenant_id = tenant_id ∧ d.task_id = task_id ∧ d.predecessor_task_id = i := by
  simp only [add_dependency, bind_eq_ok, raise_if_eq_ok] at hok
  obtain ⟨_, -, hok⟩ := hok
  cases hok
  rcases Table.mem_insert.1 hd with hd | rfl
  · exact Or.inl hd
  · exact Or.inr ⟨rfl, rfl, rfl⟩

/-- After the loop an edge is one that was there or one of the new ones. -/
theorem add_dependencies_mem {ids : List ℕ}
    (hok : ids.foldlM (add_dependency tenant_id task_id) t = .ok t') (hd : d ∈ t') :
    d ∈ t ∨ d.tenant_id = tenant_id ∧ d.task_id = task_id ∧ d.predecessor_task_id ∈ ids := by
  induction ids generalizing t with
  | nil =>
    cases hok
    exact Or.inl hd
  | cons i ids ih =>
    simp only [List.foldlM_cons, bind_eq_ok] at hok
    obtain ⟨t₁, hadd, hrest⟩ := hok
    rcases ih hrest with hd₁ | ⟨htenant, htask, hmem⟩
    · rcases add_dependency_mem hadd hd₁ with hd₀ | ⟨htenant, htask, rfl⟩
      · exact Or.inl hd₀
      · exact Or.inr ⟨htenant, htask, List.mem_cons_self⟩
    · exact Or.inr ⟨htenant, htask, List.mem_cons_of_mem i hmem⟩

/-- **What a rewrite of the edges has checked and done**: the new predecessors
are live tasks of the plan, satisfied ones if the task has started; the plan's
edges have no cycle with the new ones in place of the task's old ones; and every
edge left is an old one of another task or joins the task to one of them. -/
structure Rewired (db db' : Db) (task : RunbookTask) (plan_id tenant_id : ℕ)
    (predecessor_ids : List ℕ) : Prop where
  live : ∀ i ∈ predecessor_ids, ∃ p ∈ live_tasks db plan_id tenant_id, p.id = i ∧
    (task.status ≠ .not_started → p.status ∈ SATISFIED_STATUSES)
  acyclic : Acyclic (Waits ((live_tasks db plan_id tenant_id).map RunbookTask.id)
    ((live_edges db plan_id tenant_id).filter (fun e => e.1 ≠ task.id)
      ++ predecessor_ids.eraseDups.map fun i => (task.id, i)))
  edges : ∀ d ∈ db'.dependencies,
    (d ∈ db.dependencies ∧ ¬ (d.tenant_id = tenant_id ∧ d.task_id = task.id)) ∨
      d.tenant_id = tenant_id ∧ d.task_id = task.id ∧ d.predecessor_task_id ∈ predecessor_ids
  frame : db' = { db with dependencies := db'.dependencies }

theorem set_predecessors_ok
    (hok : set_predecessors db task plan tenant_id predecessor_ids = .ok db') :
    Rewired db db' task plan.id tenant_id predecessor_ids := by
  simp only [set_predecessors, bind_eq_ok, raise_if_eq_ok, mapError_eq_ok] at hok
  obtain ⟨_, -, _, hmissing, _, hunsatisfied, order, horder, deps, hdeps, hok⟩ := hok
  cases hok
  refine ⟨fun i hi => ?_, topological_order_ok_iff.1 ⟨order, horder⟩, fun d hd => ?_, rfl⟩
  · have hi' : i ∈ predecessor_ids.eraseDups := List.mem_eraseDups.2 hi
    have hmem : i ∈ (live_tasks db plan.id tenant_id).map RunbookTask.id := by
      simpa using filter_empty hmissing hi'
    -- `tasks[i]` is there, because `i` was not reported missing
    cases hfind : (live_tasks db plan.id tenant_id).find? fun t => t.id = i with
    | none =>
      obtain ⟨t, ht, rfl⟩ := List.mem_map.1 hmem
      exact absurd (List.find?_eq_none.1 hfind t ht) (by simp)
    | some p =>
      refine ⟨p, List.mem_of_find?_eq_some hfind, by simpa using List.find?_some hfind,
        fun hstarted => ?_⟩
      have hread : p ∈ predecessor_ids.eraseDups.filterMap fun i =>
          (live_tasks db plan.id tenant_id).find? fun t => t.id = i :=
        List.mem_filterMap.2 ⟨i, hi', hfind⟩
      simpa using filter_empty (fun hne => hunsatisfied ⟨hstarted, hne⟩) hread
  · rcases add_dependencies_mem hdeps hd with hd | ⟨htenant, htask, hmem⟩
    · obtain ⟨hd, hkept⟩ := Table.mem_delete.1 hd
      exact Or.inl ⟨hd, of_decide_eq_false hkept⟩
    · exact Or.inr ⟨htenant, htask, List.mem_eraseDups.1 hmem⟩

theorem Sound.set_predecessors (h : Sound db) (htask : task ∈ db.tasks)
    (htenant : task.tenant_id = tenant_id)
    (hok : set_predecessors db task plan tenant_id predecessor_ids = .ok db') : Sound db' := by
  have hrewired := set_predecessors_ok hok
  have htasks : db'.tasks = db.tasks := by rw [hrewired.frame]
  have hplans : db'.plans = db.plans := by rw [hrewired.frame]
  constructor
  · rw [htasks, hplans]
    exact h.plan_of_task
  · rw [htasks]
    intro d hd t ht hid
    rcases hrewired.edges d hd with ⟨hd, -⟩ | ⟨hdtenant, hdtask, -⟩
    · exact h.tenant_of_edge d hd t ht hid
    -- a new edge leaves from the task, whose tenant the request is in
    · rw [Table.eq_of_key_eq ht htask (hid.trans hdtask), hdtenant, htenant]
  · rw [htasks]
    intro d hd
    rcases hrewired.edges d hd with ⟨hd, -⟩ | ⟨-, hdtask, hdpred⟩
    · exact h.ends_of_edge d hd
    · obtain ⟨p, hp, hpid, -⟩ := hrewired.live _ hdpred
      rw [hdtask, ← hpid]
      exact ⟨Table.key_lt_next htask, Table.key_lt_next (mem_live_tasks.1 hp).1⟩
  · intro t p htp hstarted
    have ht := htp.task_mem
    have hp := htp.pred_mem
    rw [htasks] at ht hp
    obtain ⟨d, hd, hdt, hdp⟩ := htp.edge
    rcases hrewired.edges d hd with ⟨hd, -⟩ | ⟨-, hdtask, hdpred⟩
    · exact h.unblocked t p
        ⟨ht, hp, htp.task_live, htp.pred_live, htp.same_plan, d, hd, hdt, hdp⟩ hstarted
    · -- a new edge, so `t` is the task and `p` one of the tasks just checked
      obtain ⟨p', hp', hpid, hsatisfied⟩ := hrewired.live _ hdpred
      have hpp : p' = p := Table.eq_of_key_eq (mem_live_tasks.1 hp').1 hp (hpid.trans hdp)
      have htt : t = task := Table.eq_of_key_eq ht htask (hdt.symm.trans hdtask)
      subst hpp htt
      refine hsatisfied ?_
      intro hns
      rw [hns] at hstarted
      exact absurd hstarted (by decide)

/-! ## Tasks -/

/-- A task inserted under an existing plan has no edges yet. -/
theorem Sound.insert_task (h : Sound db) (hplan : plan ∈ db.plans) (data : RunbookTaskCreate) :
    Sound { db with
      tasks := db.tasks.insert ⟨data.row plan.tenant_id plan.id, fun _ => rfl⟩ } where
  plan_of_task := by
    intro t ht
    rcases Table.mem_insert.1 ht with ht | rfl
    · exact h.plan_of_task t ht
    · exact ⟨plan, hplan, rfl, rfl⟩
  tenant_of_edge := by
    intro d hd t ht hid
    rcases Table.mem_insert.1 ht with ht | rfl
    · exact h.tenant_of_edge d hd t ht hid
    -- every edge was made before this key was drawn
    · have hlt := (h.ends_of_edge d hd).1
      rw [← hid] at hlt
      exact absurd hlt (lt_irrefl _)
  ends_of_edge := by
    intro d hd
    obtain ⟨ht, hp⟩ := h.ends_of_edge d hd
    exact ⟨Nat.lt_succ_of_lt ht, Nat.lt_succ_of_lt hp⟩
  unblocked := by
    intro t p htp
    obtain ⟨d, hd, hdt, hdp⟩ := htp.edge
    obtain ⟨hlt_t, hlt_p⟩ := h.ends_of_edge d hd
    rcases Table.mem_insert.1 htp.task_mem with ht | rfl
    · rcases Table.mem_insert.1 htp.pred_mem with hp | rfl
      · exact h.unblocked t p
          ⟨ht, hp, htp.task_live, htp.pred_live, htp.same_plan, d, hd, hdt, hdp⟩
      · rw [hdp] at hlt_p
        exact absurd hlt_p (lt_irrefl _)
    · rw [hdt] at hlt_t
      exact absurd hlt_t (lt_irrefl _)

theorem Sound.create_task (h : Sound db) (hplan : plan ∈ db.plans)
    (htenant : plan.tenant_id = tenant_id) {data : RunbookTaskCreate}
    (hok : create_task db plan tenant_id data = .ok db') : Sound db' := by
  subst htenant
  simp only [Runbook.create_task, bind_eq_ok] at hok
  obtain ⟨_, -, _, -, hok⟩ := hok
  have hinsert := h.insert_task hplan data
  split_ifs at hok
  · cases hok
    exact hinsert
  · exact hinsert.set_predecessors (Table.mem_insert.2 (Or.inr rfl)) rfl hok

theorem Sound.update_task (h : Sound db) {data : RunbookTaskUpdate}
    (hok : update_task db task plan tenant_id data = .ok db') : Sound db' := by
  simp only [Runbook.update_task, bind_eq_ok] at hok
  obtain ⟨_, -, _, -, _, -, hok⟩ := hok
  cases hok
  exact h.edit_tasks data.keeps rfl rfl rfl (fun _ => rfl)

theorem Sound.delete_task (h : Sound db) (hok : delete_task db task tenant_id now = .ok db') :
    Sound db' := by
  simp only [Runbook.delete_task, bind_eq_ok, raise_if_eq_ok] at hok
  obtain ⟨_, -, hok⟩ := hok
  cases hok
  have hfewer : Sound { db with
      dependencies := db.dependencies.delete fun d =>
        d.tenant_id = tenant_id ∧ (d.task_id = task.id ∨ d.predecessor_task_id = task.id) } :=
    h.of_fewer_edges rfl (Table.retains_refl SamePlan.refl _) (fun d hd => (Table.mem_delete.1 hd).1)
  exact hfewer.edit_tasks (keeps_delete now) rfl rfl rfl (fun _ => rfl)

/-! ## Transitions -/

/-- What a transition has checked and done, as far as statuses go. -/
theorem transition_ok (hok : transition db task tenant_id user data now = .ok db') :
    data.to_status ∈ EDGES task.status ∧
      ((task.status, data.to_status) ∈ NEEDS_PREDECESSORS →
        ∀ p ∈ (_neighbours db task tenant_id).1, p.status ∈ SATISFIED_STATUSES) ∧
      ((task.status, data.to_status) ∈ NEEDS_QUIET_SUCCESSORS →
        ∀ s ∈ (_neighbours db task tenant_id).2, s.status = .not_started) ∧
      ∃ at_ events, db' = { db with
        tasks := db.tasks.update (fun t => t.id = task.id)
          ⟨move data.to_status at_, move_id data.to_status at_⟩
        events := events } := by
  simp only [transition, bind_eq_ok, raise_if_eq_ok] at hok
  obtain ⟨_, hedge, _, -, _, -, _, -, _, -, _, -, _, hblocking, _, hmoving, hok⟩ := hok
  refine ⟨not_not.1 hedge, fun hpair p hp => ?_, fun hpair s hs => ?_, ?_⟩
  · simpa using filter_empty (fun hne => hblocking ⟨hpair, hne⟩) hp
  · simpa using filter_empty (fun hne => hmoving ⟨hpair, hne⟩) hs
  · cases hok
    exact ⟨_, _, rfl⟩

/-- Every arc into a started status either reads the predecessors or leaves
from a started status already. -/
theorem edges_into_started (hedge : to_status ∈ EDGES frm) (hto : to_status ∈ STARTED) :
    (frm, to_status) ∈ NEEDS_PREDECESSORS ∨ frm ∈ STARTED := by
  cases frm <;> cases to_status <;> revert hedge hto <;> decide

/-- Every arc out of a satisfied status is a reopening, which reads the
successors. -/
theorem edges_out_of_satisfied (hedge : to_status ∈ EDGES frm) (hfrm : frm ∈ SATISFIED_STATUSES) :
    (frm, to_status) ∈ NEEDS_QUIET_SUCCESSORS ∧ to_status = .not_started := by
  cases frm <;> cases to_status <;> revert hedge hfrm <;> decide

theorem Sound.transition (h : Sound db) (htask : task ∈ db.tasks)
    (htenant : task.tenant_id = tenant_id)
    (hok : transition db task tenant_id user data now = .ok db') : Sound db' := by
  subst htenant
  obtain ⟨hedge, hpreds, hsuccs, at_, events, rfl⟩ := transition_ok hok
  refine h.update_tasks (keeps_move data.to_status at_) rfl rfl rfl (fun t p htp hstarted => ?_)
  -- the predecessor keeps a satisfied status: leaving one reads `t`, which has not started
  have hkept : p.status ∈ SATISFIED_STATUSES → (t.id ≠ task.id → t.status ∈ STARTED) →
      (t.id = task.id → data.to_status ∈ STARTED) →
      (if p.id = task.id then move data.to_status at_ p else p).status ∈ SATISFIED_STATUSES := by
    intro hsatisfied hother hself
    by_cases hpid : p.id = task.id
    · have hp : p = task := Table.eq_of_key_eq htp.pred_mem htask hpid
      subst hp
      obtain ⟨hquiet, hto⟩ := edges_out_of_satisfied hedge hsatisfied
      have hns := hsuccs hquiet t (htp.mem_neighbours h).2
      by_cases htid : t.id = p.id
      · have := hself htid
        rw [hto] at this
        exact absurd this (by decide)
      · have := hother htid
        rw [hns] at this
        exact absurd this (by decide)
    · rwa [if_neg hpid]
  by_cases htid : t.id = task.id
  · have ht : t = task := Table.eq_of_key_eq htp.task_mem htask htid
    subst ht
    have hto : data.to_status ∈ STARTED := by simpa using hstarted
    have hsatisfied : p.status ∈ SATISFIED_STATUSES := by
      rcases edges_into_started hedge hto with hneeds | hfrm
      · exact hpreds hneeds p (htp.mem_neighbours h).1
      · exact h.unblocked t p htp hfrm
    simpa using hkept hsatisfied (fun hne => absurd rfl hne) (fun _ => hto)
  · have hstarted' : t.status ∈ STARTED := by simpa [htid] using hstarted
    simpa using hkept (h.unblocked t p htp hstarted') (fun _ => hstarted')
      (fun heq => absurd heq htid)

/-! ## Requests and runs -/

theorem Sound.handle (h : Sound db) {request : Request}
    (hok : handle db request = .ok db') : Sound db' := by
  cases request with
  | create_runbook user release_id data =>
    simp only [Runbook.handle, bind_eq_ok] at hok
    obtain ⟨_, -, hok⟩ := hok
    exact h.create_plan hok
  | update_runbook user plan_id data =>
    simp only [Runbook.handle, bind_eq_ok] at hok
    obtain ⟨_, -, plan, -, hok⟩ := hok
    exact h.update_plan hok
  | delete_runbook user plan_id now =>
    simp only [Runbook.handle, bind_eq_ok] at hok
    obtain ⟨_, -, plan, -, hok⟩ := hok
    exact h.delete_plan hok
  | create_task user plan_id data =>
    simp only [Runbook.handle, bind_eq_ok] at hok
    obtain ⟨_, -, plan, hplan, hok⟩ := hok
    exact h.create_task (get_plan_ok hplan).1 (get_plan_ok hplan).2 hok
  | update_task user task_id data =>
    simp only [Runbook.handle, bind_eq_ok] at hok
    obtain ⟨_, -, row, -, hok⟩ := hok
    exact h.update_task hok
  | delete_task user task_id now =>
    simp only [Runbook.handle, bind_eq_ok] at hok
    obtain ⟨_, -, row, -, hok⟩ := hok
    exact h.delete_task hok
  | set_predecessors user task_id predecessor_ids =>
    simp only [Runbook.handle, bind_eq_ok] at hok
    obtain ⟨_, -, row, hrow, hok⟩ := hok
    exact h.set_predecessors (get_task_ok hrow).mem (get_task_ok hrow).tenant hok
  | transition_task user task_id data now =>
    simp only [Runbook.handle, bind_eq_ok] at hok
    obtain ⟨row, hrow, hok⟩ := hok
    exact h.transition (get_task_ok hrow).mem (get_task_ok hrow).tenant hok
  | directory rows =>
    cases hok
    exact h.of_fewer_edges rfl (Table.retains_refl SamePlan.refl _) (fun _ hd => hd)

theorem Sound.step (h : Sound db) (request : Request) : Sound (step db request) :=
  commit_or_rollback_keeps h fun _ hok => h.handle hok

theorem sound_run (directory : Directory) (requests : List Request) :
    Sound (Runs.run step (Db.fresh directory) requests) :=
  Runs.run_inv (fun _ request h => h.step request) (sound_fresh directory) requests

/-- **No started task waits on an unsatisfied one.** Whatever requests are made
of the runbooks, in whatever order, no live task in progress, done or failed
has a live predecessor that is neither done nor skipped. -/
theorem started_tasks_unblocked (directory : Directory) (requests : List Request) :
    Unblocked (Runs.run step (Db.fresh directory) requests) :=
  (sound_run directory requests).unblocked

end EnvMgr.Runbook
