/-
The forecast never improves by waiting.

When the clock moves on or a task is estimated to take longer, no forecast start or finish
comes earlier, and neither does the end. While no task has started and the anchor is ahead,
the forecast is the plan.
-/
import EnvMgr.Runbook.Earliest

namespace EnvMgr.Runbook

variable {t : TaskInput} {i : ℕ}

/-! ## Times to the minute -/

theorem utc_mono {a b : DateTime} (h : a ≤ b) : _utc a ≤ _utc b := by
  have hfloor : ∀ dt : DateTime, _utc dt = timedelta.minutes 1 * (dt / timedelta.minutes 1) :=
    fun dt => sub_eq_of_eq_add' (Int.emod_add_mul_ediv dt (timedelta.minutes 1)).symm
  rw [hfloor a, hfloor b]
  exact Int.mul_le_mul_of_nonneg_left (Int.ediv_le_ediv (by decide) h) (by decide)

theorem getD_mono (at_ : Option DateTime) {d d' : DateTime} (h : d ≤ d') :
    (at_.map _utc).getD d ≤ (at_.map _utc).getD d' := by
  cases at_ with
  | none => exact h
  | some v => exact le_refl _

/-! ## Longer estimates -/

/-- The same task, estimated to take at least as long. -/
structure Longer (t t' : TaskInput) : Prop where
  id : t'.id = t.id
  duration_minutes : t.duration_minutes ≤ t'.duration_minutes
  fixed_start_at : t'.fixed_start_at = t.fixed_start_at
  status : t'.status = t.status
  actual_started_at : t'.actual_started_at = t.actual_started_at
  actual_finished_at : t'.actual_finished_at = t.actual_finished_at

theorem Longer.refl (t : TaskInput) : Longer t t := ⟨rfl, le_refl _, rfl, rfl, rfl, rfl⟩

theorem Longer.dur_le {t' : TaskInput} (h : Longer t t') : dur t ≤ dur t' :=
  Int.mul_le_mul_of_nonneg_right (Int.ofNat_le.2 h.duration_minutes) (by decide)

/-- **One task.** Each status has its own formula, and none of them gives earlier times for a
later clock, a longer estimate or later predecessors. -/
theorem forecast_times_mono {t' : TaskInput} (h : Longer t t') {now now' driven driven' : DateTime}
    (hnow : now ≤ now') (hdriven : driven ≤ driven') :
    forecast_times now t driven ≤ forecast_times now' t' driven' := by
  have hdur := h.dur_le
  simp only [forecast_times, h.status, h.fixed_start_at, h.actual_started_at,
    h.actual_finished_at]
  cases t.status with
  | not_started =>
    have hstart := max_le_max (not_before_mono t.fixed_start_at hdriven) hnow
    exact ⟨hstart, add_le_add hstart hdur⟩
  | in_progress =>
    have hstart := getD_mono t.actual_started_at hnow
    exact ⟨hstart, max_le_max (add_le_add hstart hdur) hnow⟩
  | failed =>
    have hstart := getD_mono t.actual_started_at hnow
    exact ⟨hstart, max_le_max (add_le_add hstart hdur) hnow⟩
  | skipped => exact ⟨hdriven, hdriven⟩
  | done =>
    have hstart : ((t.actual_started_at.map _utc).or (t.actual_finished_at.map _utc)).getD driven ≤
        ((t.actual_started_at.map _utc).or (t.actual_finished_at.map _utc)).getD driven' := by
      cases t.actual_started_at with
      | none => exact getD_mono t.actual_finished_at hdriven
      | some v => exact le_refl _
    exact ⟨hstart, getD_mono t.actual_finished_at hstart⟩

section Lists

variable {tasks tasks' : List TaskInput} {edges : List (ℕ × ℕ)}

theorem map_id_of_longer (h : List.Forall₂ Longer tasks tasks') :
    tasks'.map TaskInput.id = tasks.map TaskInput.id := by
  induction h with
  | nil => rfl
  | cons hhead _ ih => rw [List.map_cons, List.map_cons, hhead.id, ih]

theorem longer_of_mem (h : List.Forall₂ Longer tasks tasks') (ht : t ∈ tasks) :
    ∃ t' ∈ tasks', Longer t t' := by
  induction h with
  | nil => cases ht
  | @cons a a' as as' hhead _ ih =>
    rcases List.mem_cons.1 ht with rfl | hmem
    · exact ⟨a', List.mem_cons_self, hhead⟩
    · obtain ⟨t', ht', hlonger⟩ := ih hmem
      exact ⟨t', List.mem_cons_of_mem a' ht', hlonger⟩

theorem by_id_longer (hids : (tasks.map TaskInput.id).Nodup) (h : List.Forall₂ Longer tasks tasks')
    (hby : by_id tasks i = some t) :
    ∃ t', by_id tasks' i = some t' ∧ Longer t t' := by
  obtain ⟨ht, rfl⟩ := (by_id_some hids).1 hby
  obtain ⟨t', ht', hlonger⟩ := longer_of_mem h ht
  have hids' : (tasks'.map TaskInput.id).Nodup := by rwa [map_id_of_longer h]
  exact ⟨t', (by_id_some hids').2 ⟨ht', hlonger.id⟩, hlonger⟩

theorem known_edges_longer (h : List.Forall₂ Longer tasks tasks') :
    known_edges tasks' edges = known_edges tasks edges := by
  have hsome : ∀ i, (by_id tasks' i).isSome = (by_id tasks i).isSome := fun i =>
    Bool.eq_iff_iff.2 (by rw [by_id_isSome, by_id_isSome, map_id_of_longer h])
  simp only [known_edges, hsome]

end Lists

/-! ## The forecast pass -/

section Forecast

variable {tasks tasks' : List TaskInput} {edges : List (ℕ × ℕ)} {anchor now now' : DateTime}
  {order : List ℕ}

theorem Ordered.forecast_entry (h : Ordered tasks edges order) (hi : i ∈ order) :
    (forecast_pass tasks edges anchor now order).times i =
      entry tasks edges anchor now (fun _ => 0) i
        (forecast_pass tasks edges anchor now order).times := by
  obtain ⟨t, ht⟩ := h.task hi
  obtain ⟨hstart, hfinish⟩ := @Ordered.forecast_eq tasks edges anchor now order h i hi t ht
  rw [entry, ht]
  exact Prod.ext hstart (hfinish.trans (add_zero _).symm)

theorem entry_mono (hids : (tasks.map TaskInput.id).Nodup) (h : List.Forall₂ Longer tasks tasks')
    (hnow : now ≤ now') {d d' : ℕ → DateTime × DateTime} (hi : ∃ t, by_id tasks i = some t)
    (hle : ∀ j, Edge edges j i → d j ≤ d' j) :
    entry tasks edges anchor now (fun _ => 0) i d ≤
      entry tasks' edges anchor now' (fun _ => 0) i d' := by
  obtain ⟨t, ht⟩ := hi
  obtain ⟨t', ht', hlonger⟩ := by_id_longer hids h ht
  have hdriven : max_of anchor ((preds edges i).map fun p => (d p).2) ≤
      max_of anchor ((preds edges i).map fun p => (d' p).2) :=
    max_of_mono fun p hp => (hle p (mem_preds.1 hp)).2
  have htimes := forecast_times_mono hlonger hnow hdriven
  rw [entry, entry, ht, ht']
  exact ⟨htimes.1, add_le_add_left htimes.2 0⟩

/-- **Later all along.** -/
theorem Ordered.forecast_le (h : Ordered tasks edges order) (h' : Ordered tasks' edges order)
    (hlonger : List.Forall₂ Longer tasks tasks') (hnow : now ≤ now') (hi : i ∈ order) :
    (forecast_pass tasks edges anchor now order).times i ≤
      (forecast_pass tasks' edges anchor now' order).times i := by
  have hmem : ∀ i, (∃ t, by_id tasks i = some t) → i ∈ order := fun i ⟨t, ht⟩ =>
    (h.mem_iff i).2 (by_id_isSome.1 (Option.isSome_iff_exists.2 ⟨t, ht⟩))
  have hmono : Earliest.Below (fun i => ∃ t, by_id tasks i = some t) (Edge edges)
      (entry tasks edges anchor now fun _ => 0) (entry tasks' edges anchor now' fun _ => 0) :=
    fun _ _ _ hi hle => entry_mono h.ids hlonger hnow hi hle
  exact Earliest.solution_le h.wellFounded (fun j i hji => h.task (h.known j i hji).1) hmono
    (fun i hi => (h.forecast_entry (hmem i hi)).le)
    (fun i hi => (h'.forecast_entry (hmem i hi)).ge) (h.task hi)

/-- **Nothing has started.** The planned times solve the forecast's equations, since none of
them is before now. -/
theorem Ordered.forecast_planned (h : Ordered tasks edges order)
    (hstatus : ∀ t ∈ tasks, t.status = .not_started) (hnow : now ≤ anchor) (hi : i ∈ order) :
    (forecast_pass tasks edges anchor now order).times i =
      (planned_pass tasks edges anchor order).times i := by
  have hmem : ∀ i, (∃ t, by_id tasks i = some t) → i ∈ order := fun i ⟨t, ht⟩ =>
    (h.mem_iff i).2 (by_id_isSome.1 (Option.isSome_iff_exists.2 ⟨t, ht⟩))
  have hplanned : ∀ i, (∃ t, by_id tasks i = some t) →
      (planned_pass tasks edges anchor order).times i =
        entry tasks edges anchor now (fun _ => 0) i
          (planned_pass tasks edges anchor order).times := by
    rintro i ⟨t, hby⟩
    obtain ⟨ht, rfl⟩ := (by_id_some h.ids).1 hby
    obtain ⟨hstart, hfinish⟩ := @Ordered.planned_task tasks edges anchor order h t ht
    have hlate := hnow.trans (@Ordered.anchor_le tasks edges anchor order h t.id (hmem _ ⟨t, hby⟩))
    have htimes : forecast_times now t (max_of anchor
        ((preds edges t.id).map (planned_pass tasks edges anchor order).p_finish)) =
        (planned_pass tasks edges anchor order).times t.id := by
      simp only [forecast_times, hstatus t ht, ← hstart, max_eq_left hlate, ← hfinish]
      rfl
    rw [entry, hby]
    exact Prod.ext (congrArg Prod.fst htimes).symm
      ((congrArg Prod.snd htimes).symm.trans (add_zero _).symm)
  have hrefl : List.Forall₂ Longer tasks tasks :=
    List.forall₂_same.2 fun t _ => Longer.refl t
  have hmono : Earliest.Below (fun i => ∃ t, by_id tasks i = some t) (Edge edges)
      (entry tasks edges anchor now fun _ => 0) (entry tasks edges anchor now fun _ => 0) :=
    fun _ _ _ hi hle => entry_mono h.ids hrefl (le_refl now) hi hle
  exact Earliest.solution_unique h.wellFounded (fun j i hji => h.task (h.known j i hji).1) hmono
    (fun i hi => h.forecast_entry (hmem i hi)) hplanned (h.task hi)

end Forecast

/-! ## The forecast that is returned -/

/-- No row of the second schedule has an earlier forecast, and neither has its end. -/
structure NoEarlier (schedule schedule' : PlanSchedule) : Prop where
  rows : ∀ row ∈ schedule.tasks, ∃ row' ∈ schedule'.tasks, row'.1 = row.1
  starts : ∀ row ∈ schedule.tasks, ∀ row' ∈ schedule'.tasks, row'.1 = row.1 →
    row.2.forecast_start ≤ row'.2.forecast_start
  finishes : ∀ row ∈ schedule.tasks, ∀ row' ∈ schedule'.tasks, row'.1 = row.1 →
    row.2.forecast_finish ≤ row'.2.forecast_finish
  forecast_end : schedule.forecast_end ≤ schedule'.forecast_end

/-- The forecast is the plan. -/
structure OnPlan (schedule : PlanSchedule) : Prop where
  starts : ∀ row ∈ schedule.tasks, row.2.forecast_start = row.2.planned_start
  finishes : ∀ row ∈ schedule.tasks, row.2.forecast_finish = row.2.planned_finish
  forecast_end : schedule.forecast_end = schedule.planned_end
  slip : schedule.slip_minutes = 0

section ReadOff

variable {tasks tasks' : List TaskInput} {anchor : DateTime} {order : List ℕ} {p p' : Planned}
  {f f' : Forecast} {schedule schedule' : PlanSchedule}

/-- Rows of one id are read off the passes at the same place. -/
theorem ReadOff.no_earlier (h : ReadOff anchor tasks order p f schedule)
    (h' : ReadOff anchor tasks' order p' f' schedule')
    (hsame : tasks'.map TaskInput.id = tasks.map TaskInput.id)
    (hin : ∀ t ∈ tasks, t.id ∈ order) (hle : ∀ i ∈ order, f.times i ≤ f'.times i) :
    NoEarlier schedule schedule' := by
  have hrow : ∀ row ∈ schedule.tasks, ∀ row' ∈ schedule'.tasks, row'.1 = row.1 →
      (row.2.forecast_start, row.2.forecast_finish) ≤
        (row'.2.forecast_start, row'.2.forecast_finish) := by
    intro row hrow row' hrow' hid
    obtain ⟨t, ht, hof⟩ := h.row_of row hrow
    obtain ⟨t', -, hof'⟩ := h'.row_of row' hrow'
    have htid : t'.id = t.id := by rw [← hof'.id, hid, hof.id]
    rw [hof.forecast_start, hof.forecast_finish, hof'.forecast_start, hof'.forecast_finish, htid]
    exact hle t.id (hin t ht)
  refine ⟨fun row hmem => ?_, fun row hmem row' hmem' hid => (hrow row hmem row' hmem' hid).1,
    fun row hmem row' hmem' hid => (hrow row hmem row' hmem' hid).2, ?_⟩
  · obtain ⟨t, ht, hof⟩ := h.row_of row hmem
    have hid : t.id ∈ tasks'.map TaskInput.id := by
      rw [hsame]
      exact List.mem_map_of_mem ht
    obtain ⟨t', ht', htid⟩ := List.mem_map.1 hid
    obtain ⟨row', hmem', hid'⟩ := h'.has_row t' ht'
    exact ⟨row', hmem', by rw [hid', htid, hof.id]⟩
  · rw [h.forecast_end, h'.forecast_end]
    exact max_of_mono fun i hi => (hle i hi).2

theorem ReadOff.on_plan (h : ReadOff anchor tasks order p f schedule)
    (hin : ∀ t ∈ tasks, t.id ∈ order) (heq : ∀ i ∈ order, f.times i = p.times i) :
    OnPlan schedule := by
  have hstart : ∀ i ∈ order, f.f_start i = p.p_start i := fun i hi => congrArg Prod.fst (heq i hi)
  have hfinish : ∀ i ∈ order, f.f_finish i = p.p_finish i :=
    fun i hi => congrArg Prod.snd (heq i hi)
  have hend : schedule.forecast_end = schedule.planned_end := by
    rw [h.forecast_end, h.planned_end, List.map_congr_left hfinish]
  refine ⟨fun row hrow => ?_, fun row hrow => ?_, hend, ?_⟩
  · obtain ⟨t, ht, hof⟩ := h.row_of row hrow
    rw [hof.forecast_start, hof.planned_start, hstart t.id (hin t ht)]
  · obtain ⟨t, ht, hof⟩ := h.row_of row hrow
    rw [hof.forecast_finish, hof.planned_finish, hfinish t.id (hin t ht)]
  · rw [h.slip, hend, sub_self, Int.zero_ediv, max_self]

end ReadOff

/-- **The forecast only moves back.** A task has started when its status is not
`not_started`, as in "A runbook whose tasks have started cannot be deleted". -/
theorem forecast_never_improves {tasks tasks' : List TaskInput} {edges : List (ℕ × ℕ)}
    (hids : (tasks.map TaskInput.id).Nodup)
    (hacyclic : Acyclic (Waits (tasks.map TaskInput.id) edges))
    (hlonger : List.Forall₂ Longer tasks tasks') (anchor : DateTime) {now now' : DateTime}
    (hnow : now ≤ now') :
    ∃ schedule schedule', compute anchor tasks edges now = .ok schedule ∧
      compute anchor tasks' edges now' = .ok schedule' ∧ NoEarlier schedule schedule' ∧
      ((∀ t ∈ tasks, t.status = .not_started) → now ≤ anchor → OnPlan schedule) := by
  have hsame := map_id_of_longer hlonger
  obtain ⟨order, schedule, horder, hordered, hschedule, hread⟩ :=
    computed hids hacyclic anchor now
  obtain ⟨order', schedule', horder', hordered', hschedule', hread'⟩ :=
    computed (by rwa [hsame]) (by rwa [hsame]) anchor now'
  -- the ids and the edges are the same, so the passes run in the same order
  rw [known_edges_longer hlonger, hsame] at horder'
  obtain rfl : order = order' := Except.ok.inj (horder.symm.trans horder')
  rw [known_edges_longer hlonger] at hordered' hread'
  have hin : ∀ t ∈ tasks, t.id ∈ order := fun t ht =>
    (hordered.mem_iff t.id).2 (List.mem_map_of_mem ht)
  refine ⟨schedule, schedule', hschedule, hschedule', ?_, fun hstatus hahead => ?_⟩
  · exact hread.no_earlier hread' hsame hin fun i hi =>
      hordered.forecast_le hordered' hlonger (utc_mono hnow) hi
  · exact hread.on_plan hin fun i hi =>
      hordered.forecast_planned hstatus (utc_mono hahead) hi

/-- A rehearsal and the cutover that waits for it: on plan at first, and ten minutes later with
a longer estimate twenty-five minutes behind. -/
theorem forecast_never_improves_two :
    ∃ schedule schedule',
      compute 0 [⟨1, 30, none, .not_started, none, none⟩, ⟨2, 30, none, .not_started, none, none⟩]
        [(2, 1)] 0 = .ok schedule ∧
      compute 0 [⟨1, 45, none, .not_started, none, none⟩, ⟨2, 30, none, .not_started, none, none⟩]
        [(2, 1)] (timedelta.minutes 10) = .ok schedule' ∧
      NoEarlier schedule schedule' ∧ OnPlan schedule ∧
      schedule.forecast_end = timedelta.minutes 60 ∧
      schedule'.forecast_end = timedelta.minutes 85 := by
  have hacyclic : Acyclic (Waits ([⟨1, 30, none, .not_started, none, none⟩,
      ⟨2, 30, none, .not_started, none, none⟩].map TaskInput.id) [(2, 1)]) := by
    refine acyclic_of_rank id ?_
    rintro p t ⟨hpt, -⟩
    obtain ⟨rfl, rfl⟩ := Prod.mk.inj (List.mem_singleton.1 hpt)
    decide
  have hlonger : List.Forall₂ Longer
      [⟨1, 30, none, .not_started, none, none⟩, ⟨2, 30, none, .not_started, none, none⟩]
      [⟨1, 45, none, .not_started, none, none⟩, ⟨2, 30, none, .not_started, none, none⟩] :=
    .cons ⟨rfl, by decide, rfl, rfl, rfl, rfl⟩ (.cons (Longer.refl _) .nil)
  obtain ⟨schedule, schedule', hschedule, hschedule', hle, hplan⟩ :=
    forecast_never_improves (by decide) hacyclic hlonger 0
      (show (0 : DateTime) ≤ timedelta.minutes 10 by decide)
  refine ⟨schedule, schedule', hschedule, hschedule', hle, hplan (by decide) (by decide), ?_, ?_⟩
  · obtain rfl := Except.ok.inj hschedule
    decide +kernel
  · obtain rfl := Except.ok.inj hschedule'
    decide +kernel

end EnvMgr.Runbook
