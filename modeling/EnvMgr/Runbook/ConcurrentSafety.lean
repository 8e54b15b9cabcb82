/-
When plans stay safe under concurrency.

What a request commits was checked against what it had read, and by then others may
have committed. Whether a commit is safe is a matter of the committed rows it meets:
a rewiring, that the task leads to none of its new predecessors; a move, that the
neighbours allow it. Exactly as long as every commit meets rows for which this is
so do the plans stay without cycles and the started tasks unblocked.
-/
import EnvMgr.Runbook.Concurrent
import EnvMgr.Runbook.Graph

namespace EnvMgr.Runbook.Concurrent

open Relation

/-! ## The property -/

/-- No plan has a cycle, and no started task waits for an unsatisfied one. -/
structure PlansSafe (db : Db) : Prop where
  acyclic : ∀ plan_id, Acyclic (Precedes db plan_id)
  unblocked : Unblocked db

/-- What the committed rows have to allow when the writes are committed. -/
def Harmless (db : Db) : Work → Prop
  | .rewire task _ _ added =>
    (∀ p ∈ added, ¬ ReflTransGen (Precedes db task.plan_id) task.id p) ∧
      ∀ t ∈ db.tasks, t.id = task.id → t.status ∈ STARTED →
        ∀ p ∈ db.tasks, p.id ∈ added → p.status ∈ SATISFIED_STATUSES
  | .move loaded changed _ =>
    ∀ t ∈ db.tasks, t.id = loaded.id →
      (changed.status ∈ STARTED → ∀ p, HasPredecessor db t p → p.status ∈ SATISFIED_STATUSES) ∧
      (changed.status ∉ SATISFIED_STATUSES → ∀ q, HasPredecessor db q t → q.status ∉ STARTED)

/-! ## What an open transaction can rely on -/

/-- The rows that the writes name are there: tasks are never deleted meanwhile, and a
dropped edge, if it is still there, leads into the task. -/
def Ready (db : Db) : Work → Prop
  | .rewire task _ dropped added =>
    is_live_in db task.plan_id task.id ∧ (∀ p ∈ added, is_live_in db task.plan_id p) ∧
      (∀ k ∈ dropped, k < db.dependencies.next) ∧
      ∀ d ∈ db.dependencies, d.id ∈ dropped → d.task_id = task.id
  | .move loaded changed _ =>
    is_live_in db loaded.plan_id loaded.id ∧ changed.status ≠ loaded.status

/-- What no commit undoes. -/
structure Later (db db' : Db) : Prop where
  live : ∀ plan_id id, is_live_in db plan_id id → is_live_in db' plan_id id
  next : db.dependencies.next ≤ db'.dependencies.next
  old : ∀ d ∈ db'.dependencies, d.id < db.dependencies.next → d ∈ db.dependencies

theorem Later.refl (db : Db) : Later db db := ⟨fun _ _ h => h, le_rfl, fun _ h _ => h⟩

theorem Ready.later {db db' : Db} (h : Later db db') {work : Work} (hready : Ready db work) :
    Ready db' work := by
  cases work with
  | rewire task tenant_id dropped added =>
    obtain ⟨htask, hadded, hlt, hinto⟩ := hready
    refine ⟨h.live _ _ htask, fun p hp => h.live _ _ (hadded p hp),
      fun k hk => (hlt k hk).trans_le h.next, fun d hd hk => ?_⟩
    exact hinto d (h.old d hd (hlt d.id hk)) hk
  | move loaded changed event => exact ⟨h.live _ _ hready.1, hready.2⟩

/-! ## Rewiring -/

section Rewire

variable {db : Db} {task : RunbookTask} {tenant_id : ℕ} {dropped added : List ℕ}

/-- An edge after the rewiring was kept, or leads from an added predecessor. -/
theorem edge_rewire {x p : ℕ} :
    (∃ d ∈ ((Work.rewire task tenant_id dropped added).apply db).dependencies,
      d.task_id = x ∧ d.predecessor_task_id = p) ↔
      (∃ d ∈ db.dependencies, d.id ∉ dropped ∧ d.task_id = x ∧ d.predecessor_task_id = p) ∨
        x = task.id ∧ p ∈ added := by
  simp only [Work.apply, Table.mem_insert_all, Table.mem_delete, List.getElem?_map,
    Option.map_eq_some_iff]
  constructor
  · rintro ⟨d, ⟨hd, hkept⟩ | ⟨i, new, ⟨q, hq, rfl⟩, rfl⟩, rfl, rfl⟩
    · exact Or.inl ⟨d, hd, of_decide_eq_false hkept, rfl, rfl⟩
    · exact Or.inr ⟨rfl, List.mem_of_getElem? hq⟩
  · rintro (⟨d, hd, hkept, hx, hp⟩ | ⟨rfl, hp⟩)
    · exact ⟨d, Or.inl ⟨hd, decide_eq_false hkept⟩, hx, hp⟩
    · obtain ⟨i, hi⟩ := List.mem_iff_getElem?.1 hp
      exact ⟨_, Or.inr ⟨i, _, ⟨p, hi, rfl⟩, rfl⟩, rfl, rfl⟩

/-- In the plan, the edges that the rewiring keeps. -/
def Kept (db : Db) (dropped : List ℕ) (plan_id p t : ℕ) : Prop :=
  is_live_in db plan_id t ∧ is_live_in db plan_id p ∧
    ∃ d ∈ db.dependencies, d.id ∉ dropped ∧ d.task_id = t ∧ d.predecessor_task_id = p

/-- `Precedes`, by ids. -/
theorem precedes_iff {plan_id p t : ℕ} :
    Precedes db plan_id p t ↔ is_live_in db plan_id t ∧ is_live_in db plan_id p ∧
      ∃ d ∈ db.dependencies, d.task_id = t ∧ d.predecessor_task_id = p := by
  constructor
  · rintro ⟨a, b, hab, hplan, rfl, rfl⟩
    exact ⟨⟨a, hab.task_mem, rfl, hplan, hab.task_live⟩,
      ⟨b, hab.pred_mem, rfl, hab.same_plan.symm.trans hplan, hab.pred_live⟩, hab.edge⟩
  · rintro ⟨⟨a, ha, rfl, hplan, halive⟩, ⟨b, hb, rfl, hbplan, hblive⟩, hedge⟩
    exact ⟨a, b, ⟨ha, hb, halive, hblive, hplan.trans hbplan.symm, hedge⟩, hplan, rfl, rfl⟩

theorem kept_precedes {plan_id p t : ℕ} (h : Kept db dropped plan_id p t) :
    Precedes db plan_id p t := by
  obtain ⟨ht, hp, d, hd, -, hends⟩ := h
  exact precedes_iff.2 ⟨ht, hp, d, hd, hends⟩

/-- Live tasks have one plan. -/
theorem plan_of_live {plan_id plan_id' id : ℕ} (h : is_live_in db plan_id id)
    (h' : is_live_in db plan_id' id) : plan_id = plan_id' := by
  obtain ⟨a, ha, hid, rfl, -⟩ := h
  obtain ⟨b, hb, hid', rfl, -⟩ := h'
  rw [Table.eq_of_key_eq ha hb (hid.trans hid'.symm)]

theorem precedes_rewire (hready : Ready db (.rewire task tenant_id dropped added))
    {plan_id p t : ℕ} :
    Precedes ((Work.rewire task tenant_id dropped added).apply db) plan_id p t ↔
      Kept db dropped plan_id p t ∨ plan_id = task.plan_id ∧ t = task.id ∧ p ∈ added := by
  obtain ⟨htask, hadded, -, -⟩ := hready
  have hlive : ∀ id, is_live_in ((Work.rewire task tenant_id dropped added).apply db) plan_id id ↔
      is_live_in db plan_id id := fun id => Iff.rfl
  rw [precedes_iff, edge_rewire, hlive, hlive]
  constructor
  · rintro ⟨ht, hp, hkept | ⟨rfl, hmem⟩⟩
    · exact Or.inl ⟨ht, hp, hkept⟩
    · exact Or.inr ⟨plan_of_live ht htask, rfl, hmem⟩
  · rintro (⟨ht, hp, hkept⟩ | ⟨rfl, rfl, hmem⟩)
    · exact ⟨ht, hp, Or.inl hkept⟩
    · exact ⟨htask, hadded p hmem, Or.inr ⟨rfl, hmem⟩⟩

theorem acyclic_rewired_iff (hready : Ready db (.rewire task tenant_id dropped added))
    (h : ∀ plan_id, Acyclic (Precedes db plan_id)) :
    (∀ plan_id, Acyclic
        (Precedes ((Work.rewire task tenant_id dropped added).apply db) plan_id)) ↔
      ∀ p ∈ added, ¬ ReflTransGen (Precedes db task.plan_id) task.id p := by
  have hrule := @acyclic_rewire_iff ℕ (Precedes db task.plan_id)
    (Kept db dropped task.plan_id) (h task.plan_id) task.id (· ∈ added)
    (fun p t => kept_precedes) (fun p t hpt hne => by
      obtain ⟨ht, hp, d, hd, hdt, hdp⟩ := precedes_iff.1 hpt
      refine ⟨ht, hp, d, hd, fun hdropped => hne ?_, hdt, hdp⟩
      rw [← hdt, hready.2.2.2 d hd hdropped])
  rw [← hrule]
  constructor
  · intro hnew
    refine (hnew task.plan_id).mono fun p t hpt => (precedes_rewire hready).2 ?_
    exact hpt.imp_right fun hadded => ⟨rfl, hadded⟩
  · intro hnew plan_id
    by_cases hplan : plan_id = task.plan_id
    · subst hplan
      exact hnew.mono fun p t hpt => ((precedes_rewire hready).1 hpt).imp_right fun hadded => hadded.2
    · refine (h plan_id).mono fun p t hpt => ?_
      rcases (precedes_rewire hready).1 hpt with hkept | ⟨heq, -⟩
      · exact kept_precedes hkept
      · exact absurd heq hplan

theorem unblocked_rewired_iff (hready : Ready db (.rewire task tenant_id dropped added))
    (h : Unblocked db) :
    Unblocked ((Work.rewire task tenant_id dropped added).apply db) ↔
      ∀ t ∈ db.tasks, t.id = task.id → t.status ∈ STARTED →
        ∀ p ∈ db.tasks, p.id ∈ added → p.status ∈ SATISFIED_STATUSES := by
  obtain ⟨⟨t₀, ht₀, hid₀, hplan₀, hlive₀⟩, hadded, -, -⟩ := hready
  constructor
  · intro hnew t ht hid hstarted p hp hmem
    obtain rfl : t = t₀ := Table.eq_of_key_eq ht ht₀ (hid.trans hid₀.symm)
    obtain ⟨p₀, hp₀, hpid, hpplan, hplive⟩ := hadded p.id hmem
    obtain rfl : p = p₀ := Table.eq_of_key_eq hp hp₀ hpid.symm
    refine hnew t p ⟨ht, hp, hlive₀, hplive, hplan₀.trans hpplan.symm, ?_⟩ hstarted
    exact edge_rewire.2 (Or.inr ⟨hid, hmem⟩)
  · intro hnew t p htp hstarted
    rcases edge_rewire.1 htp.edge with ⟨d, hd, -, hends⟩ | ⟨hid, hmem⟩
    · exact h t p ⟨htp.task_mem, htp.pred_mem, htp.task_live, htp.pred_live, htp.same_plan,
        d, hd, hends⟩ hstarted
    · exact hnew t htp.task_mem hid hstarted p htp.pred_mem hmem

end Rewire

/-! ## Moving -/

section Move

variable {db : Db} {loaded changed : RunbookTask} {event : Table.New RunbookTaskEvent.id}

theorem keeps_write_changed (loaded changed : RunbookTask) :
    Keeps (write_changed loaded changed) where
  plan_id := fun _ => rfl
  tenant_id := fun _ => rfl
  live := fun _ hlive => hlive

/-- A task after the move. -/
def moved (loaded changed t : RunbookTask) : RunbookTask :=
  if t.id = loaded.id then write_changed loaded changed t else t

theorem moved_keeps (loaded changed t : RunbookTask) :
    (moved loaded changed t).id = t.id ∧ (moved loaded changed t).plan_id = t.plan_id ∧
      (moved loaded changed t).deleted_at = t.deleted_at := by
  unfold moved
  split
  · exact ⟨rfl, rfl, rfl⟩
  · exact ⟨rfl, rfl, rfl⟩

theorem moved_self (hne : changed.status ≠ loaded.status) {t : RunbookTask} (hid : t.id = loaded.id) :
    (moved loaded changed t).status = changed.status := by
  rw [moved, if_pos hid]
  exact if_neg hne

theorem moved_other {t : RunbookTask} (hid : t.id ≠ loaded.id) : moved loaded changed t = t :=
  if_neg hid

theorem mem_moved {t' : RunbookTask} :
    t' ∈ ((Work.move loaded changed event).apply db).tasks ↔
      ∃ t ∈ db.tasks, moved loaded changed t = t' := by
  simp only [Work.apply, Table.mem_update, decide_eq_true_eq]
  rfl

theorem live_move {plan_id id : ℕ} :
    is_live_in ((Work.move loaded changed event).apply db) plan_id id ↔ is_live_in db plan_id id := by
  constructor
  · rintro ⟨t', ht', hid, hplan, hlive⟩
    obtain ⟨t, ht, rfl⟩ := mem_moved.1 ht'
    obtain ⟨hkid, hkplan, hklive⟩ := moved_keeps loaded changed t
    exact ⟨t, ht, hkid ▸ hid, hkplan ▸ hplan, hklive ▸ hlive⟩
  · rintro ⟨t, ht, hid, hplan, hlive⟩
    obtain ⟨hkid, hkplan, hklive⟩ := moved_keeps loaded changed t
    exact ⟨moved loaded changed t, mem_moved.2 ⟨t, ht, rfl⟩, hkid.trans hid, hkplan.trans hplan,
      hklive.trans hlive⟩

theorem precedes_move {plan_id p t : ℕ} :
    Precedes ((Work.move loaded changed event).apply db) plan_id p t ↔ Precedes db plan_id p t := by
  rw [precedes_iff, precedes_iff, live_move, live_move]
  rfl

theorem hasPredecessor_move {t' p' : RunbookTask} :
    HasPredecessor ((Work.move loaded changed event).apply db) t' p' ↔
      ∃ t p, HasPredecessor db t p ∧ moved loaded changed t = t' ∧ moved loaded changed p = p' := by
  constructor
  · intro htp
    have hedges : ((Work.move loaded changed event).apply db).dependencies = db.dependencies := rfl
    obtain ⟨t, p, hjoined, ht, hp⟩ := HasPredecessor.of_update
      (c := fun t => decide (t.id = loaded.id)) (f := ⟨write_changed loaded changed, fun _ => rfl⟩)
      (keeps_write_changed loaded changed) hedges rfl htp
    simp only [decide_eq_true_eq] at ht hp
    exact ⟨t, p, hjoined, ht, hp⟩
  · rintro ⟨t, p, htp, rfl, rfl⟩
    obtain ⟨htid, htplan, htlive⟩ := moved_keeps loaded changed t
    obtain ⟨hpid, hpplan, hplive⟩ := moved_keeps loaded changed p
    obtain ⟨d, hd, hdt, hdp⟩ := htp.edge
    exact
      { task_mem := mem_moved.2 ⟨t, htp.task_mem, rfl⟩
        pred_mem := mem_moved.2 ⟨p, htp.pred_mem, rfl⟩
        task_live := htlive.trans htp.task_live
        pred_live := hplive.trans htp.pred_live
        same_plan := (htplan.trans htp.same_plan).trans hpplan.symm
        edge := ⟨d, hd, hdt.trans htid.symm, hdp.trans hpid.symm⟩ }

/-- No task waits for itself. -/
theorem not_own_predecessor (h : PlansSafe db) {t p : RunbookTask} (htp : HasPredecessor db t p) :
    t.id ≠ p.id := by
  intro hid
  obtain rfl : t = p := Table.eq_of_key_eq htp.task_mem htp.pred_mem hid
  exact h.acyclic t.plan_id t.id (TransGen.single ⟨t, t, htp, rfl, rfl, rfl⟩)

theorem unblocked_moved_iff (hready : Ready db (.move loaded changed event)) (h : PlansSafe db) :
    Unblocked ((Work.move loaded changed event).apply db) ↔
      Harmless db (.move loaded changed event) := by
  have hne := hready.2
  constructor
  · intro hnew t ht hid
    refine ⟨fun hstarted p htp => ?_, fun hunsatisfied q hqt hstarted => ?_⟩
    · have hpid : p.id ≠ loaded.id := fun heq => not_own_predecessor h htp (hid.trans heq.symm)
      have hmoved := hnew _ _ (hasPredecessor_move.2 ⟨t, p, htp, rfl, rfl⟩)
        (by rwa [moved_self hne hid])
      rwa [moved_other hpid] at hmoved
    · have hqid : q.id ≠ loaded.id := fun heq => not_own_predecessor h hqt (heq.trans hid.symm)
      have hmoved := hnew _ _ (hasPredecessor_move.2 ⟨q, t, hqt, rfl, rfl⟩)
        (by rwa [moved_other hqid])
      rw [moved_self hne hid] at hmoved
      exact hunsatisfied hmoved
  · intro hharmless t' p' htp' hstarted
    obtain ⟨t, p, htp, rfl, rfl⟩ := hasPredecessor_move.1 htp'
    by_cases htid : t.id = loaded.id
    · have hpid : p.id ≠ loaded.id := fun heq => not_own_predecessor h htp (htid.trans heq.symm)
      rw [moved_self hne htid] at hstarted
      rw [moved_other hpid]
      exact (hharmless t htp.task_mem htid).1 hstarted p htp
    · rw [moved_other htid] at hstarted
      by_cases hpid : p.id = loaded.id
      · rw [moved_self hne hpid]
        by_contra hunsatisfied
        exact (hharmless p htp.pred_mem hpid).2 hunsatisfied t htp hstarted
      · rw [moved_other hpid]
        exact h.unblocked t p htp hstarted

end Move

/-- **The commit.** It leaves the plans safe exactly if the committed rows allow what
it writes. -/
theorem plansSafe_apply_iff {db : Db} {work : Work} (hready : Ready db work) (h : PlansSafe db) :
    PlansSafe (work.apply db) ↔ Harmless db work := by
  cases work with
  | rewire task tenant_id dropped added =>
    have hacyclic := acyclic_rewired_iff hready h.acyclic
    have hunblocked := unblocked_rewired_iff hready h.unblocked
    constructor
    · rintro ⟨ha, hu⟩
      exact ⟨hacyclic.1 ha, hunblocked.1 hu⟩
    · rintro ⟨ha, hu⟩
      exact ⟨hacyclic.2 ha, hunblocked.2 hu⟩
  | move loaded changed event =>
    have hunblocked := unblocked_moved_iff hready h
    constructor
    · rintro ⟨-, hu⟩
      exact hunblocked.1 hu
    · intro hharmless
      refine ⟨fun plan_id => (h.acyclic plan_id).mono fun p t hpt => precedes_move.1 hpt, ?_⟩
      exact hunblocked.2 hharmless

theorem later_apply (db : Db) (work : Work) : Later db (work.apply db) := by
  cases work with
  | rewire task tenant_id dropped added =>
    have hnext := (db.dependencies.delete fun d => d.id ∈ dropped).next_le_insert_all
      (added.map (new_edge tenant_id task.id))
    refine ⟨fun _ _ h => h, hnext, fun d hd hlt => ?_⟩
    rcases Table.mem_insert_all.1 hd with hd | ⟨i, new, -, rfl⟩
    · exact (Table.mem_delete.1 hd).1
    · rw [new.key_row] at hlt
      exact absurd hlt (Nat.not_lt.2 (Nat.le_add_right _ _))
  | move loaded changed event =>
    exact ⟨fun _ _ h => live_move.2 h, le_rfl, fun d hd _ => hd⟩

/-! ## The statements -/

/-- What a request has made sure of so far. -/
def Fits (db : Db) : Phase → Prop
  | .task_read task => is_live_in db task.plan_id task.id
  | .to_rewire task _ tasks =>
    is_live_in db task.plan_id task.id ∧ ∀ t ∈ tasks, is_live_in db task.plan_id t.id
  | .to_move task changed event _ => Ready db (.move task changed event)
  | .rewiring task ids => Ready db (.rewire task 0 [] ids)
  | .deleting task ids dropped => Ready db (.rewire task 0 dropped ids)
  | .inserting task dropped added ids => Ready db (.rewire task 0 dropped (added ++ ids))
  | .moving loaded changed event => Ready db (.move loaded changed event)
  | .written work | .tasks_shown work _ | .shown work => Ready db work
  | _ => True

theorem Fits.later {db db' : Db} (h : Later db db') {ph : Phase} (hfits : Fits db ph) :
    Fits db' ph := by
  cases ph with
  | task_read task => exact h.live _ _ hfits
  | to_rewire task predecessor_ids tasks =>
    exact ⟨h.live _ _ hfits.1, fun t ht => h.live _ _ (hfits.2 t ht)⟩
  | to_move task changed event tasks => exact @Ready.later db db' h (.move task changed event) hfits
  | rewiring task ids => exact @Ready.later db db' h (.rewire task 0 [] ids) hfits
  | deleting task ids dropped => exact @Ready.later db db' h (.rewire task 0 dropped ids) hfits
  | inserting task dropped added ids =>
    exact @Ready.later db db' h (.rewire task 0 dropped (added ++ ids)) hfits
  | moving loaded changed event => exact @Ready.later db db' h (.move loaded changed event) hfits
  | written work => exact @Ready.later db db' h work hfits
  | tasks_shown work tasks => exact @Ready.later db db' h work hfits
  | shown work => exact @Ready.later db db' h work hfits
  | received => trivial
  | committed => trivial
  | raised e => trivial
  | lost => trivial

theorem check_predecessors_ok {task : RunbookTask} {tasks : List RunbookTask}
    {edges : List (ℕ × ℕ)} {predecessor_ids ids : List ℕ}
    (hok : check_predecessors task tasks edges predecessor_ids = .ok ids) :
    ∀ p ∈ ids, p ∈ tasks.map RunbookTask.id := by
  simp only [check_predecessors, bind_eq_ok, raise_if_eq_ok, not_not] at hok
  obtain ⟨_, -, _, hmissing, _, -, _, -, hok⟩ := hok
  cases hok
  intro p hp
  by_contra hout
  exact List.filter_eq_nil_iff.1 hmissing p hp (decide_eq_true hout)

theorem check_move_ok {db : Db} {task : RunbookTask} {tenant_id : ℕ} {user : CurrentUser}
    {data : TransitionRequest} {now : DateTime} {written : DateTime × Option String}
    (hok : check_move db task tenant_id user data now = .ok written) :
    data.to_status ∈ EDGES task.status := by
  simp only [check_move, bind_eq_ok, raise_if_eq_ok, not_not] at hok
  obtain ⟨_, hedge, -⟩ := hok
  exact hedge

/-- No edge of the state machine leads back to where it starts. -/
theorem edges_irrefl {frm to_status : TaskStatus} (hedge : to_status ∈ EDGES frm) :
    to_status ≠ frm := by
  cases frm <;> cases to_status <;> revert hedge <;> decide

section Statements

variable {n : ℕ} {calls : Fin n → Call}

/-- What a check lets the request go on to. -/
theorem fits_after {α : Type} {db : Db} {result : Except Raised α} {next : α → Phase}
    (h : ∀ a, result = .ok a → Fits db (next a)) : Fits db (.after result next) := by
  cases result with
  | ok a => exact h a rfl
  | error e => exact trivial

theorem fits_loaded {db : Db} {task_id tenant_id : ℕ} {row : RunbookTask × RunbookPlan}
    (hok : get_task db task_id tenant_id = .ok row) : Fits db (.task_read row.1) := by
  have hload := get_task_ok hok
  exact ⟨row.1, hload.mem, rfl, rfl, hload.live⟩

/-- The commit. -/
theorem advance_shown {s : State n} {i : Fin n} {work : Work} (hph : s.phases i = .shown work) :
    advance calls s i = (work.apply s.db, .committed) := by
  simp only [advance, hph]

/-- The ids found are those of edges into the task, and below the next one: no edge made from
now on has one of them. -/
theorem selected_edges {db : Db} {p : RunbookTaskDependency → Bool} {task_id : ℕ}
    (hinto : ∀ d, p d = true → d.task_id = task_id) :
    (∀ k ∈ (db.dependencies.select p).map (·.id), k < db.dependencies.next) ∧
      ∀ d ∈ db.dependencies, d.id ∈ (db.dependencies.select p).map (·.id) →
        d.task_id = task_id := by
  constructor
  · intro k hk
    obtain ⟨d, hd, rfl⟩ := List.mem_map.1 hk
    exact Table.key_lt_next (Table.mem_select.1 hd).1
  · intro d hd hk
    obtain ⟨d', hd', hid⟩ := List.mem_map.1 hk
    obtain ⟨hmem, hfound⟩ := Table.mem_select.1 hd'
    rw [← Table.eq_of_key_eq hmem hd hid]
    exact hinto d' hfound

/-- The statement writes nothing that others read, and the request goes on with what it has made
sure of. -/
def Advances (calls : Fin n → Call) (s : State n) (i : Fin n) : Prop :=
  (advance calls s i).1 = s.db ∧ Fits s.db (advance calls s i).2

/-- The task that is loaded is live. -/
theorem advance_received {s : State n} {i : Fin n} (hph : s.phases i = .received) :
    Advances calls s i := by
  unfold Advances
  cases hcall : calls i with
  | set_predecessors user task_id predecessor_ids =>
    simp only [advance, hph, hcall]
    refine ⟨trivial, fits_after fun row hrow => ?_⟩
    obtain ⟨_, -, hload⟩ := bind_eq_ok.1 hrow
    exact fits_loaded hload
  | transition_task user task_id data now =>
    simp only [advance, hph, hcall]
    exact ⟨trivial, fits_after fun row hrow => fits_loaded hrow⟩

/-- So are the tasks of its plan, and none of these requests deletes one. A move is along an arc of
the machine, so it does not stay where it is. -/
theorem advance_task_read {s : State n} {i : Fin n} {task : RunbookTask}
    (hph : s.phases i = .task_read task) (htask : is_live_in s.db task.plan_id task.id) :
    Advances calls s i := by
  unfold Advances
  cases hcall : calls i with
  | set_predecessors user task_id predecessor_ids =>
    simp only [advance, hph, hcall]
    refine ⟨trivial, htask, fun t ht => ?_⟩
    obtain ⟨hmem, hplan, -, hlive⟩ := mem_live_tasks.1 ht
    exact ⟨t, hmem, rfl, hplan, hlive⟩
  | transition_task user task_id data now =>
    simp only [advance, hph, hcall]
    refine ⟨trivial, fits_after fun written hwritten => ?_⟩
    exact ⟨htask, edges_irrefl (check_move_ok hwritten)⟩

/-- The new predecessors are among the tasks that were read. -/
theorem advance_to_rewire {s : State n} {i : Fin n} {task : RunbookTask}
    {predecessor_ids : List ℕ} {tasks : List RunbookTask}
    (hph : s.phases i = .to_rewire task predecessor_ids tasks)
    (hfits : Fits s.db (.to_rewire task predecessor_ids tasks)) : Advances calls s i := by
  obtain ⟨htask, htasks⟩ := hfits
  simp only [Advances, advance, hph]
  refine ⟨trivial, fits_after fun ids hids => ?_⟩
  refine ⟨htask, fun p hp => ?_, fun k hk => absurd hk List.not_mem_nil,
    fun d _ hk => absurd hk List.not_mem_nil⟩
  obtain ⟨t, ht, rfl⟩ := List.mem_map.1 (check_predecessors_ok hids p hp)
  exact htasks t ht

/-- An edge is inserted, unless the statement waits for another transaction. -/
theorem advance_inserting {s : State n} {i : Fin n} {task : RunbookTask}
    {dropped added ids : List ℕ} (hph : s.phases i = .inserting task dropped added ids)
    (hfits : Fits s.db (.inserting task dropped added ids)) : Advances calls s i := by
  unfold Advances
  cases ids with
  | nil =>
    rw [Fits, List.append_nil] at hfits
    simp only [advance, hph]
    exact ⟨trivial, hfits⟩
  | cons p ids =>
    simp only [advance, hph]
    split
    · exact ⟨rfl, hfits⟩
    · refine ⟨rfl, fits_after fun _ _ => ?_⟩
      rw [Fits, List.append_assoc]
      exact hfits

/-- **All but the commit.** Any other statement reads, or writes what only its own transaction
sees: what a request has written stands in its phase. What it has read may have changed since, but
not what it has made sure of, as long as no task is deleted and no id is given out twice. -/
theorem advance_fits {s : State n} {i : Fin n} (hfits : Fits s.db (s.phases i))
    (hopen : ∀ work, s.phases i ≠ .shown work) : Advances calls s i := by
  cases hph : s.phases i with
  | received => exact advance_received hph
  | task_read task =>
    rw [hph] at hfits
    exact advance_task_read hph hfits
  | to_rewire task predecessor_ids tasks =>
    rw [hph] at hfits
    exact advance_to_rewire hph hfits
  | to_move task changed event tasks =>
    rw [hph] at hfits
    simp only [Advances, advance, hph]
    exact ⟨trivial, fits_after fun _ _ => hfits⟩
  | rewiring task ids =>
    -- the `DELETE` looks for the edges into the task
    rw [hph] at hfits
    obtain ⟨htask, hids, -, -⟩ := hfits
    simp only [Advances, advance, hph]
    exact ⟨trivial, htask, hids, selected_edges fun d hd => (of_decide_eq_true hd).2⟩
  | deleting task ids dropped =>
    -- and waits where another transaction has them
    rw [hph] at hfits
    simp only [Advances, advance, hph]
    split
    · exact ⟨rfl, hfits⟩
    · exact ⟨rfl, hfits⟩
  | inserting task dropped added ids =>
    rw [hph] at hfits
    exact advance_inserting hph hfits
  | moving loaded changed event =>
    rw [hph] at hfits
    simp only [Advances, advance, hph]
    split
    · exact ⟨rfl, hfits⟩
    · exact ⟨rfl, hfits⟩
  | written work =>
    rw [hph] at hfits
    simp only [Advances, advance, hph]
    exact ⟨trivial, hfits⟩
  | tasks_shown work tasks =>
    rw [hph] at hfits
    simp only [Advances, advance, hph]
    exact ⟨trivial, fits_after fun _ _ => hfits⟩
  | shown work =>
    exact absurd hph (hopen work)
  | committed | raised e | lost =>
    -- nothing is left to run
    simp only [Advances, advance, hph]
    exact ⟨trivial, trivial⟩

theorem fits_start (n : ℕ) (db : Db) (i : Fin n) : Fits (start n db).db ((start n db).phases i) :=
  trivial

/-- A request that moves on, in a database that has lost nothing. -/
theorem fits_update {phases : Fin n → Phase} {db db' : Db} (h : ∀ j, Fits db (phases j))
    (hlater : Later db db') (i : Fin n) (ph : Phase) (hph : Fits db' ph) (j : Fin n) :
    Fits db' (Function.update phases i ph j) := by
  by_cases hj : j = i
  · subst hj
    rwa [Function.update_self]
  · rw [Function.update_of_ne hj]
    exact (h j).later hlater

theorem step_abort (s : State n) (i : Fin n) :
    step calls s (.abort i) = s ∨
      step calls s (.abort i) = { s with phases := Function.update s.phases i .lost } := by
  unfold step
  dsimp only
  split
  · exact Or.inl rfl
  · exact Or.inl rfl
  · exact Or.inr rfl

/-- What the requests have made sure of stays so with every statement. -/
theorem step_fits {s : State n} (h : ∀ j, Fits s.db (s.phases j)) (e : Event n) (j : Fin n) :
    Fits (step calls s e).db ((step calls s e).phases j) := by
  cases e with
  | proceed i =>
    by_cases hshown : ∃ work, s.phases i = .shown work
    · obtain ⟨work, hph⟩ := hshown
      rw [step, advance_shown hph]
      exact fits_update h (later_apply s.db work) i .committed trivial j
    · rw [not_exists] at hshown
      obtain ⟨hdb, hnext⟩ := @advance_fits n calls s i (h i) hshown
      rw [step, hdb]
      exact fits_update h (Later.refl s.db) i _ hnext j
  | abort i =>
    rcases @step_abort n calls s i with heq | heq
    · rw [heq]
      exact h j
    · rw [heq]
      exact fits_update h (Later.refl s.db) i .lost trivial j

/-- A commit meets rows that allow what it writes. -/
def HarmlessCommit (s : State n) : Event n → Prop
  | .proceed i => ∀ work, s.phases i = .shown work → Harmless s.db work
  | .abort _ => True

theorem step_safe_iff {s : State n} (h : ∀ j, Fits s.db (s.phases j)) (hsafe : PlansSafe s.db)
    (e : Event n) : PlansSafe (step calls s e).db ↔ HarmlessCommit s e := by
  cases e with
  | proceed i =>
    by_cases hshown : ∃ work, s.phases i = .shown work
    · obtain ⟨work, hph⟩ := hshown
      have hready : Ready s.db work := by
        have hfits := h i
        rwa [hph] at hfits
      rw [step, advance_shown hph, plansSafe_apply_iff hready hsafe]
      constructor
      · intro hharmless work' hph'
        rw [hph] at hph'
        cases hph'
        exact hharmless
      · intro hcommit
        exact hcommit work hph
    · rw [not_exists] at hshown
      obtain ⟨hdb, -⟩ := @advance_fits n calls s i (h i) hshown
      rw [step, hdb]
      exact ⟨fun _ work hph => absurd hph (hshown work), fun _ => hsafe⟩
  | abort i =>
    have hdb : (step calls s (.abort i)).db = s.db := by
      rcases @step_abort n calls s i with heq | heq
      · rw [heq]
      · rw [heq]
    rw [hdb]
    exact ⟨fun _ => trivial, fun _ => hsafe⟩

end Statements

theorem plansSafe_run (directory : Directory) (requests : List Request) :
    PlansSafe (Runs.run Runbook.step (Db.fresh directory) requests) := by
  obtain ⟨hs, hwoven⟩ := woven_run directory requests
  exact ⟨hwoven.acyclic, hs.unblocked⟩

/-- **When concurrent requests keep the plans safe.** After any requests made one at a
time, and in every interleaving of the statements of any number of rewirings and
transitions, some of them lost on the way, the plans are safe all along if and only if
every commit meets rows that allow what it writes. -/
theorem plans_safe_iff (directory : Directory) (requests : List Request) {n : ℕ}
    (calls : Fin n → Call) (events : List (Event n)) :
    let db := Runs.run Runbook.step (Db.fresh directory) requests
    Runs.Always (step calls) (fun s => PlansSafe s.db) (start n db) events ↔
      Runs.Along (step calls) HarmlessCommit (start n db) events := by
  intro db
  have hfits : ∀ (s : State n) e, (∀ j, Fits s.db (s.phases j)) →
      ∀ j, Fits (step calls s e).db ((step calls s e).phases j) := fun _ e h => step_fits h e
  exact Runs.always_iff_along hfits (fun _ e h hsafe => step_safe_iff h hsafe e)
    (fits_start n db) (plansSafe_run directory requests) events

namespace Race

def directory : Directory :=
  ⟨[⟨1, 1, none⟩], [], [⟨1, 1, "production", .active, none, none, none⟩], [], []⟩

def manager : CurrentUser := ⟨1, 1, Role.RELEASE_MANAGER, false⟩

def task (name : String) (predecessor_ids : List ℕ) : RunbookTaskCreate :=
  ⟨name, none, none, none, .task, ⟨20, by decide⟩, none, 0, predecessor_ids⟩

def first : Fin 2 := ⟨0, Nat.two_pos⟩

def second : Fin 2 := ⟨1, Nat.one_lt_two⟩

def calls (a b : Call) (i : Fin 2) : Call := if i = first then a else b

/-- Each request runs up to its commit, and then both commit. -/
def schedule (statements : ℕ) : List (Event 2) :=
  List.replicate statements (.proceed first) ++ List.replicate statements (.proceed second)
    ++ [.proceed first, .proceed second]

/-- Two tasks that wait for nothing are each made to wait for the other. -/
def rewired : State 2 :=
  Runs.run (step (calls (.set_predecessors manager 1 [2]) (.set_predecessors manager 2 [1])))
    (start 2 (Runs.run Runbook.step (Db.fresh directory)
      [.create_runbook manager 1 ⟨1, "cutover", 0, none, none⟩,
        .create_task manager 1 (task "migrate" []),
        .create_task manager 1 (task "announce" [])]))
    (schedule 9)

/-- A finished task is reopened while the one after it is started. -/
def reopened : State 2 :=
  Runs.run
    (step (calls (.transition_task manager 1 ⟨.not_started, none, some "again"⟩ 0)
      (.transition_task manager 2 ⟨.in_progress, none, none⟩ 0)))
    (start 2 (Runs.run Runbook.step (Db.fresh directory)
      [.create_runbook manager 1 ⟨1, "cutover", 0, none, none⟩,
        .create_task manager 1 (task "migrate" []),
        .create_task manager 1 (task "announce" [1]),
        .transition_task manager 1 ⟨.done, none, none⟩ 0]))
    (schedule 6)

end Race

/-- Two rewirings close a cycle, and a reopening leaves a started task waiting. -/
theorem concurrent_requests_break_plans :
    ¬ (∀ plan_id, Acyclic (Precedes Race.rewired.db plan_id)) ∧ ¬ Unblocked Race.reopened.db := by
  constructor
  · intro h
    have h₁ : Precedes Race.rewired.db 1 1 2 := precedes_iff.2 (by decide +kernel)
    have h₂ : Precedes Race.rewired.db 1 2 1 := precedes_iff.2 (by decide +kernel)
    exact h 1 1 (TransGen.tail (TransGen.single h₁) h₂)
  · intro h
    have hpair : ∃ t ∈ Race.reopened.db.tasks, ∃ p ∈ Race.reopened.db.tasks,
        t.deleted_at = none ∧ p.deleted_at = none ∧ t.plan_id = p.plan_id ∧
          (∃ d ∈ Race.reopened.db.dependencies,
            d.task_id = t.id ∧ d.predecessor_task_id = p.id) ∧
          t.status ∈ STARTED ∧ p.status ∉ SATISFIED_STATUSES := by
      decide +kernel
    obtain ⟨t, ht, p, hp, htlive, hplive, hplan, hedge, hstarted, hunsatisfied⟩ := hpair
    exact hunsatisfied (h t p ⟨ht, hp, htlive, hplive, hplan, hedge⟩ hstarted)

end EnvMgr.Runbook.Concurrent
