/-
When tasks say they started and finished.

A transition stamps the start, the finish, both or neither. The time it was given is held
against the recorded start when a running task finishes, and a failed task that is skipped
gets a new finish without that.
-/
import EnvMgr.Runbook.Unblocked

namespace EnvMgr.Runbook

/-! ## The invariant -/

/-- The actual times that go with a status. -/
def TimesOf (t : RunbookTask) : Prop :=
  match t.status with
  | .not_started => t.actual_started_at = none ∧ t.actual_finished_at = none
  | .in_progress => t.actual_started_at ≠ none ∧ t.actual_finished_at = none
  | .done => t.actual_started_at ≠ none ∧ t.actual_finished_at ≠ none
  | .failed => t.actual_started_at ≠ none ∧ t.actual_finished_at ≠ none
  | .skipped => True

/-- The task did not finish before it started. -/
def InOrder (t : RunbookTask) : Prop :=
  ∀ started finished, t.actual_started_at = some started →
    t.actual_finished_at = some finished → started ≤ finished

structure Timely (t : RunbookTask) : Prop where
  times_of : TimesOf t
  in_order : InOrder t

/-- A time that comes no earlier than the recorded start. -/
def NotBeforeStart (t : RunbookTask) (at_ : DateTime) : Prop :=
  ∀ started, t.actual_started_at = some started → started ≤ at_

/-! ## One transition -/

section

variable {t : RunbookTask} {to_status : TaskStatus} {at_ : DateTime}

theorem assert_not_before_start_ok :
    assert_not_before_start t at_ = .ok () ↔ (t.status = .in_progress → NotBeforeStart t at_) := by
  unfold assert_not_before_start NotBeforeStart
  cases t.actual_started_at with
  | none => simp
  | some started => simp

theorem move_times (to_status : TaskStatus) (at_ : DateTime) (t : RunbookTask) :
    ((move to_status at_ t).actual_started_at, (move to_status at_ t).actual_finished_at) =
      if to_status = .in_progress then (some at_, none)
      else if to_status = .done ∧ t.status = .not_started then (some at_, some at_)
      else if to_status ∈ [.done, .failed, .skipped] then (t.actual_started_at, some at_)
      else (none, none) := by
  unfold move
  dsimp only
  split_ifs <;> rfl

/-- The arcs that keep the recorded start and stamp the finish. -/
theorem timely_finish_iff (hto : to_status ∈ [.done, .failed, .skipped])
    (hdone : to_status = .done → t.status ≠ .not_started)
    (hstarted : to_status ≠ .skipped → t.actual_started_at ≠ none) :
    Timely (move to_status at_ t) ↔ NotBeforeStart t at_ := by
  have hne : to_status ≠ .in_progress := by
    rintro rfl
    exact absurd hto (by decide)
  have htimes := move_times to_status at_ t
  rw [if_neg hne, if_neg (fun h => hdone h.1 h.2), if_pos hto] at htimes
  obtain ⟨hs, hf⟩ := Prod.mk.inj htimes
  constructor
  · intro h started hst
    exact h.in_order started at_ (hs.trans hst) hf
  · intro h
    refine ⟨?_, fun started finished hst hfin => ?_⟩
    · unfold TimesOf
      rw [move_status, hs, hf]
      cases to_status with
      | not_started => exact absurd hto (by decide)
      | in_progress => exact absurd rfl hne
      | done => exact ⟨hstarted (by decide), Option.some_ne_none _⟩
      | failed => exact ⟨hstarted (by decide), Option.some_ne_none _⟩
      | skipped => trivial
    · obtain rfl := Option.some.inj (hf.symm.trans hfin)
      exact h started (hs.symm.trans hst)

/-- A start forgets the finish. -/
theorem timely_start (at_ : DateTime) (t : RunbookTask) : Timely (move .in_progress at_ t) := by
  obtain ⟨hs, hf⟩ := Prod.mk.inj (move_times .in_progress at_ t)
  refine ⟨⟨hs ▸ Option.some_ne_none _, hf⟩, fun started finished _ hfin => ?_⟩
  cases hf.symm.trans hfin

/-- A reopening forgets both. -/
theorem timely_reopen (at_ : DateTime) (t : RunbookTask) : Timely (move .not_started at_ t) := by
  obtain ⟨hs, hf⟩ := Prod.mk.inj (move_times .not_started at_ t)
  refine ⟨⟨hs, hf⟩, fun started finished hst _ => ?_⟩
  cases hs.symm.trans hst

/-- A task that is done at once starts and finishes at one time. -/
theorem timely_at_once (h : t.status = .not_started) : Timely (move .done at_ t) := by
  have htimes := move_times .done at_ t
  rw [if_neg (by decide), if_pos ⟨rfl, h⟩] at htimes
  obtain ⟨hs, hf⟩ := Prod.mk.inj htimes
  refine ⟨⟨hs ▸ Option.some_ne_none _, hf ▸ Option.some_ne_none _⟩,
    fun started finished hst hfin => ?_⟩
  obtain rfl := Option.some.inj (hs.symm.trans hst)
  obtain rfl := Option.some.inj (hf.symm.trans hfin)
  exact le_refl _

/-- **What an arc makes of the times.** Only where a failed task is skipped can they come
out of order. -/
theorem timely_move_iff (h : Timely t) (hedge : to_status ∈ EDGES t.status)
    (hstart : assert_not_before_start t at_ = .ok ()) :
    Timely (move to_status at_ t) ↔
      (t.status = .failed → to_status = .skipped → NotBeforeStart t at_) := by
  have htimes := h.times_of
  rw [assert_not_before_start_ok] at hstart
  unfold TimesOf at htimes
  cases hfrm : t.status with
  | not_started =>
    rw [hfrm] at hedge htimes
    refine iff_of_true ?_ (fun hfailed => absurd hfailed (by decide))
    simp only [EDGES, List.mem_cons, List.not_mem_nil, or_false] at hedge
    rcases hedge with rfl | rfl | rfl
    · exact timely_start at_ t
    · exact timely_at_once hfrm
    · -- it has no start to fall behind
      refine (timely_finish_iff (by decide) (fun hdone => absurd hdone (by decide))
        (fun hne => absurd rfl hne)).2 ?_
      intro started hst
      cases htimes.1.symm.trans hst
  | in_progress =>
    rw [hfrm] at hedge htimes
    refine iff_of_true ?_ (fun hfailed => absurd hfailed (by decide))
    simp only [EDGES, List.mem_cons, List.not_mem_nil, or_false] at hedge
    rcases hedge with rfl | rfl
    · exact (timely_finish_iff (by decide) (fun _ => by simp [hfrm]) (fun _ => htimes.1)).2
        (hstart hfrm)
    · exact (timely_finish_iff (by decide) (fun hdone => absurd hdone (by decide))
        (fun _ => htimes.1)).2 (hstart hfrm)
  | failed =>
    rw [hfrm] at hedge htimes
    simp only [EDGES, List.mem_cons, List.not_mem_nil, or_false] at hedge
    rcases hedge with rfl | rfl
    · exact iff_of_true (timely_start at_ t) (fun _ hskipped => absurd hskipped (by decide))
    · rw [timely_finish_iff (by decide) (fun hdone => absurd hdone (by decide))
        (fun hne => absurd rfl hne)]
      exact ⟨fun hb _ _ => hb, fun hb => hb rfl rfl⟩
  | done =>
    rw [hfrm] at hedge
    simp only [EDGES, List.mem_singleton] at hedge
    subst hedge
    exact iff_of_true (timely_reopen at_ t) (fun hfailed => absurd hfailed (by decide))
  | skipped =>
    rw [hfrm] at hedge
    simp only [EDGES, List.mem_singleton] at hedge
    subst hedge
    exact iff_of_true (timely_reopen at_ t) (fun hfailed => absurd hfailed (by decide))

end

/-! ## Requests -/

/-- The tasks are those that were there, with the times and statuses they had, and new ones
that have not started. -/
def KeepsTimes (db db' : Db) : Prop :=
  ∀ t' ∈ db'.tasks,
    (t'.status = .not_started ∧ t'.actual_started_at = none ∧ t'.actual_finished_at = none) ∨
      ∃ t ∈ db.tasks, t'.status = t.status ∧ t'.actual_started_at = t.actual_started_at ∧
        t'.actual_finished_at = t.actual_finished_at

theorem KeepsTimes.timely {db db' : Db} (hkeeps : KeepsTimes db db')
    (h : ∀ t ∈ db.tasks, Timely t) : ∀ t ∈ db'.tasks, Timely t := by
  intro t' ht'
  rcases hkeeps t' ht' with ⟨hstatus, hs, hf⟩ | ⟨t, ht, hstatus, hs, hf⟩
  · refine ⟨by simp [TimesOf, hstatus, hs, hf], fun started finished hst _ => ?_⟩
    cases hs.symm.trans hst
  · obtain ⟨htimes, horder⟩ := h t ht
    refine ⟨by rwa [TimesOf, hstatus, hs, hf], fun started finished hst hfin => ?_⟩
    exact horder started finished (hs.symm.trans hst) (hf.symm.trans hfin)

theorem keepsTimes_of_tasks {db db' : Db} (h : db'.tasks = db.tasks) : KeepsTimes db db' := by
  intro t' ht'
  rw [h] at ht'
  exact Or.inr ⟨t', ht', rfl, rfl, rfl⟩

theorem keepsTimes_of_update {db db' : Db} {p : RunbookTask → Bool} {f : Table.Edit RunbookTask.id}
    (h : db'.tasks = db.tasks.update p f) (hf : ∀ t, (f.apply t).status = t.status ∧
      (f.apply t).actual_started_at = t.actual_started_at ∧
      (f.apply t).actual_finished_at = t.actual_finished_at) : KeepsTimes db db' := by
  intro t' ht'
  rw [h] at ht'
  rcases Table.mem_update_cases ht' with ⟨t, ht, -, rfl⟩ | ⟨ht, -⟩
  · exact Or.inr ⟨t, ht, hf t⟩
  · exact Or.inr ⟨t', ht, rfl, rfl, rfl⟩

theorem KeepsTimes.rewired {db db' db'' : Db} (h : KeepsTimes db db')
    (htasks : db''.tasks = db'.tasks) : KeepsTimes db db'' := by
  unfold KeepsTimes
  rw [htasks]
  exact h

/-- Only a transition writes the times of a task that is there. -/
theorem keepsTimes_of_handle {db db' : Db} {request : Request}
    (hother : ∀ user task_id data now, request ≠ .transition_task user task_id data now)
    (hok : handle db request = .ok db') : KeepsTimes db db' := by
  cases request with
  | create_runbook user release_id data =>
    simp only [handle, create_plan, bind_eq_ok] at hok
    obtain ⟨_, -, _, -, _, -, _, -, hok⟩ := hok
    split at hok <;> cases hok <;> exact keepsTimes_of_tasks rfl
  | update_runbook user plan_id data =>
    simp only [handle, update_plan, bind_eq_ok] at hok
    obtain ⟨_, -, plan, -, _, -, _, -, hok⟩ := hok
    cases hok
    exact keepsTimes_of_tasks rfl
  | delete_runbook user plan_id now =>
    simp only [handle, delete_plan, bind_eq_ok] at hok
    obtain ⟨_, -, plan, -, _, -, hok⟩ := hok
    cases hok
    exact keepsTimes_of_update rfl (fun t => ⟨rfl, rfl, rfl⟩)
  | create_task user plan_id data =>
    simp only [handle, create_task, bind_eq_ok] at hok
    obtain ⟨_, -, plan, -, _, -, _, -, hok⟩ := hok
    have hinsert : KeepsTimes db { db with
        tasks := db.tasks.insert ⟨data.row user.active_tenant_id plan.id, fun _ => rfl⟩ } := by
      intro t' ht'
      rcases Table.mem_insert.1 ht' with ht | rfl
      · exact Or.inr ⟨t', ht, rfl, rfl, rfl⟩
      · exact Or.inl ⟨rfl, rfl, rfl⟩
    split_ifs at hok
    · cases hok
      exact hinsert
    · exact hinsert.rewired (by rw [(set_predecessors_ok hok).frame])
  | update_task user task_id data =>
    simp only [handle, update_task, bind_eq_ok] at hok
    obtain ⟨_, -, row, -, _, -, _, -, _, -, hok⟩ := hok
    cases hok
    exact keepsTimes_of_update rfl (fun t => ⟨rfl, rfl, rfl⟩)
  | delete_task user task_id now =>
    simp only [handle, delete_task, bind_eq_ok] at hok
    obtain ⟨_, -, row, -, _, -, hok⟩ := hok
    cases hok
    exact keepsTimes_of_update rfl (fun t => ⟨rfl, rfl, rfl⟩)
  | set_predecessors user task_id predecessor_ids =>
    simp only [handle, bind_eq_ok] at hok
    obtain ⟨_, -, row, -, hok⟩ := hok
    exact keepsTimes_of_tasks (by rw [(set_predecessors_ok hok).frame])
  | transition_task user task_id data now => exact absurd rfl (hother user task_id data now)
  | directory rows =>
    cases hok
    exact keepsTimes_of_tasks rfl

/-- What a transition has checked of the times, and written. -/
theorem transition_times {db db' : Db} {task : RunbookTask} {tenant_id : ℕ} {user : CurrentUser}
    {data : TransitionRequest} {now : DateTime}
    (hok : transition db task tenant_id user data now = .ok db') :
    data.to_status ∈ EDGES task.status ∧
      assert_not_before_start task (data.at_.getD now) = .ok () ∧
      db'.tasks = db.tasks.update (fun t => t.id = task.id)
        ⟨move data.to_status (data.at_.getD now), move_id data.to_status (data.at_.getD now)⟩ := by
  simp only [transition, bind_eq_ok, raise_if_eq_ok] at hok
  obtain ⟨_, hedge, _, -, _, -, _, -, _, -, _, hstart, _, -, _, -, hok⟩ := hok
  cases hok
  exact ⟨not_not.1 hedge, hstart, rfl⟩

/-! ## Runs -/

def EveryTaskTimely (db : Db) : Prop := ∀ t ∈ db.tasks, Timely t

/-- A manager reports the failed task skipped, with a reason and a time that has come: all
that `transition` asks for on that arc. -/
structure SkipsFailed (user : CurrentUser) (task : RunbookTask) (data : TransitionRequest)
    (now : DateTime) : Prop where
  failed : task.status = .failed
  skipped : data.to_status = .skipped
  manager : is_manager user = true
  reason : strip (data.reason.getD "") ≠ ""
  not_future : data.at_.getD now ≤ now

/-- The request skips no failed task with a time before the start on record. -/
def SkipsAfterStart (db : Db) : Request → Prop
  | .transition_task user task_id data now =>
    ∀ task plan, get_task db task_id user.active_tenant_id = .ok (task, plan) →
      SkipsFailed user task data now → NotBeforeStart task (data.at_.getD now)
  | _ => True

section

variable {db db' : Db} {task : RunbookTask} {tenant_id : ℕ} {user : CurrentUser}
  {data : TransitionRequest} {now : DateTime}

/-- Nothing refuses such a skip: neither predecessors nor successors are asked. -/
theorem SkipsFailed.accepted (h : SkipsFailed user task data now) :
    ∃ db', transition db task tenant_id user data now = .ok db' := by
  have hmanager : (TaskStatus.failed, TaskStatus.skipped) ∈ MANAGER_ONLY := by decide
  have hpreds : (TaskStatus.failed, TaskStatus.skipped) ∉ NEEDS_PREDECESSORS := by decide
  have hquiet : (TaskStatus.failed, TaskStatus.skipped) ∉ NEEDS_QUIET_SUCCESSORS := by decide
  have hstart : assert_not_before_start task (data.at_.getD now) = .ok () :=
    assert_not_before_start_ok.2 fun hrunning => by
      cases h.failed.symm.trans hrunning
  simp only [transition, bind_eq_ok, raise_if_eq_ok, h.failed, h.skipped]
  refine ⟨_, (), by decide, (), fun hm => ?_, (), fun hm => hm.1 hmanager, (), ?_, (),
    not_lt_of_ge h.not_future, (), hstart, (), fun hm => hpreds hm.1, (), fun hm => hquiet hm.1,
    rfl⟩
  · cases h.manager.symm.trans hm.2
  · rw [if_neg h.reason]
    simp

/-- What a transition from `failed` to `skipped` has checked. -/
theorem skips_failed (hok : transition db task tenant_id user data now = .ok db')
    (hfailed : task.status = .failed) (hskipped : data.to_status = .skipped) :
    SkipsFailed user task data now := by
  have hmanager : (TaskStatus.failed, TaskStatus.skipped) ∈ MANAGER_ONLY := by decide
  simp only [transition, bind_eq_ok, raise_if_eq_ok, hfailed, hskipped] at hok
  obtain ⟨_, -, _, hby, _, -, _, hreason, _, hfuture, -⟩ := hok
  refine ⟨hfailed, hskipped, ?_, fun hempty => ?_, not_lt.1 hfuture⟩
  · exact Bool.of_not_eq_false fun hm => hby ⟨hmanager, hm⟩
  · rw [if_pos hempty] at hreason
    exact hreason ⟨hmanager, rfl⟩

end

theorem timely_handle_iff {db db' : Db} {request : Request} (h : EveryTaskTimely db)
    (hok : handle db request = .ok db') : EveryTaskTimely db' ↔ SkipsAfterStart db request := by
  cases request with
  | transition_task user task_id data now =>
    simp only [handle, bind_eq_ok] at hok
    obtain ⟨⟨task, plan⟩, hrow, hok⟩ := hok
    obtain ⟨hedge, hstart, htasks⟩ := transition_times hok
    have hmem := (get_task_ok hrow).mem
    unfold EveryTaskTimely
    rw [htasks, Table.forall_update_key_iff h hmem, timely_move_iff (h task hmem) hedge hstart]
    constructor
    · intro hskip task' plan' hrow' hskips
      cases hrow.symm.trans hrow'
      exact hskip hskips.failed hskips.skipped
    · intro hskip hfailed hskipped
      exact hskip task plan hrow (skips_failed hok hfailed hskipped)
  | create_runbook user release_id data =>
    exact iff_of_true ((keepsTimes_of_handle (by simp) hok).timely h) trivial
  | update_runbook user plan_id data =>
    exact iff_of_true ((keepsTimes_of_handle (by simp) hok).timely h) trivial
  | delete_runbook user plan_id now =>
    exact iff_of_true ((keepsTimes_of_handle (by simp) hok).timely h) trivial
  | create_task user plan_id data =>
    exact iff_of_true ((keepsTimes_of_handle (by simp) hok).timely h) trivial
  | update_task user task_id data =>
    exact iff_of_true ((keepsTimes_of_handle (by simp) hok).timely h) trivial
  | delete_task user task_id now =>
    exact iff_of_true ((keepsTimes_of_handle (by simp) hok).timely h) trivial
  | set_predecessors user task_id predecessor_ids =>
    exact iff_of_true ((keepsTimes_of_handle (by simp) hok).timely h) trivial
  | directory rows => exact iff_of_true ((keepsTimes_of_handle (by simp) hok).timely h) trivial

/-- A request that breaks the condition is one that goes through. -/
theorem handled_of_not_skipsAfterStart {db : Db} {request : Request}
    (h : ¬ SkipsAfterStart db request) : ∃ db', handle db request = .ok db' := by
  cases request with
  | transition_task user task_id data now =>
    unfold SkipsAfterStart at h
    push Not at h
    obtain ⟨task, plan, hrow, hskips, -⟩ := h
    obtain ⟨db', hok⟩ : ∃ db', transition db task user.active_tenant_id user data now = .ok db' :=
      hskips.accepted
    exact ⟨db', by rw [handle, hrow]; exact hok⟩
  | create_runbook user release_id data => exact absurd trivial h
  | update_runbook user plan_id data => exact absurd trivial h
  | delete_runbook user plan_id now => exact absurd trivial h
  | create_task user plan_id data => exact absurd trivial h
  | update_task user task_id data => exact absurd trivial h
  | delete_task user task_id now => exact absurd trivial h
  | set_predecessors user task_id predecessor_ids => exact absurd trivial h
  | directory rows => exact absurd trivial h

theorem timely_step_iff {db : Db} (h : EveryTaskTimely db) (request : Request) :
    EveryTaskTimely (step db request) ↔ SkipsAfterStart db request :=
  (commit_or_rollback_iff h fun _ hhandle => timely_handle_iff h hhandle).trans
    ⟨fun hif => by_contra fun hnot => hnot (hif (handled_of_not_skipsAfterStart hnot)),
      fun hskips _ => hskips⟩

/-- **When the times agree with the statuses.** From nothing, and whatever requests are made:
at every moment the times of every task go with its status and no task finished before it
started, if and only if no failed task is skipped with a time before the start on its
record. -/
theorem times_agree_iff (directory : Directory) (requests : List Request) :
    Runs.Always step EveryTaskTimely (Db.fresh directory) requests ↔
      Runs.Along step SkipsAfterStart (Db.fresh directory) requests := by
  have hwf : ∀ (db : Db) (request : Request), True → True := fun _ _ h => h
  have hfresh : EveryTaskTimely (Db.fresh directory) :=
    fun t ht => absurd ht (Table.not_mem_empty t)
  have hstep : ∀ (db : Db) (request : Request), True → EveryTaskTimely db →
      (EveryTaskTimely (step db request) ↔ SkipsAfterStart db request) :=
    fun _ request _ h => timely_step_iff h request
  exact Runs.always_iff_along hwf hstep trivial hfresh requests

namespace Backdated

def directory : Directory :=
  ⟨[⟨1, 1, none⟩], [], [⟨1, 1, "production", .active, none, none, none⟩], [], []⟩

def manager : CurrentUser := ⟨1, 1, Role.RELEASE_MANAGER, false⟩

theorem within_a_week : 20 ≤ 10080 := by decide

def task : RunbookTaskCreate :=
  ⟨"migrate", none, none, none, .task, ⟨20, within_a_week⟩, none, 0, []⟩

/-- A task that started at 100 fails at 200 and is skipped, with 50 for the time. -/
def requests : List Request :=
  [.create_runbook manager 1 ⟨1, "cutover", 0, none, none⟩,
    .create_task manager 1 task,
    .transition_task manager 1 ⟨.in_progress, some 100, none⟩ 300,
    .transition_task manager 1 ⟨.failed, some 200, none⟩ 300,
    .transition_task manager 1 ⟨.skipped, some 50, some "not needed"⟩ 300]

end Backdated

/-- It finished before it started. -/
theorem skipped_task_finishes_first :
    ¬ ∀ (directory : Directory) (requests : List Request),
      Runs.Always step EveryTaskTimely (Db.fresh directory) requests := by
  intro h
  have hlast := (Runs.always_iff EveryTaskTimely _ _).1 (h Backdated.directory Backdated.requests)
    Backdated.requests [] (List.append_nil _).symm
  have hskipped : ∃ t ∈ (Runs.run step (Db.fresh Backdated.directory) Backdated.requests).tasks,
      t.actual_started_at = some 100 ∧ t.actual_finished_at = some 50 := by
    decide
  obtain ⟨t, ht, hs, hf⟩ := hskipped
  exact absurd ((hlast t ht).in_order 100 50 hs hf) (by decide)

end EnvMgr.Runbook
