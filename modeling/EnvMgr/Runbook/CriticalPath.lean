/-
The critical path.

A task that is not through is shown as critical when a delay of it would move the
end of the plan. The backward pass decides this from latest finishes, and takes
every task that waits for another to move with it. A task with recorded times does
not. Directly after a task that is not through there is none, since nothing starts
ahead of its predecessors; but a skipped task lets what waits for it start while
its own predecessors are still at work, and hands on to them the latest start of
something that has started long ago.
-/
import EnvMgr.Runbook.Graph
import EnvMgr.Runbook.Passes

namespace EnvMgr.Runbook

open Relation

/-! ## The law -/

/-- The end of the plan is later when `k` finishes a minute later. -/
def DelaysEnd (anchor : DateTime) (tasks : List TaskInput) (edges : List (ℕ × ℕ))
    (now : DateTime) (forecast_end : DateTime) (k : ℕ) : Prop :=
  match slipped_forecast_end anchor tasks edges now k with
  | .ok slipped_end => forecast_end < slipped_end
  | .error _ => False

/-- What `critical` says of the tasks that are neither done nor skipped. -/
def CriticalPathLaw (anchor : DateTime) (tasks : List TaskInput) (edges : List (ℕ × ℕ))
    (now : DateTime) : Prop :=
  match compute anchor tasks edges now with
  | .error _ => True
  | .ok schedule => ∀ t ∈ tasks, t.status ∉ SATISFIED_STATUSES →
    ∀ row ∈ schedule.tasks, row.1 = t.id →
      (row.2.critical = true ↔ DelaysEnd anchor tasks edges now schedule.forecast_end t.id) ∧
      (row.2.forecast_finish = schedule.forecast_end → row.2.critical = true)

instance (anchor : DateTime) (tasks : List TaskInput) (edges : List (ℕ × ℕ))
    (now : DateTime) (forecast_end : DateTime) (k : ℕ) :
    Decidable (DelaysEnd anchor tasks edges now forecast_end k) := by
  unfold DelaysEnd
  cases slipped_forecast_end anchor tasks edges now k <;> infer_instance

instance (anchor : DateTime) (tasks : List TaskInput) (edges : List (ℕ × ℕ))
    (now : DateTime) : Decidable (CriticalPathLaw anchor tasks edges now) := by
  unfold CriticalPathLaw
  cases compute anchor tasks edges now <;> infer_instance

/-! ## The exact condition -/

/-- A transition into a status stamps the times that go with it. -/
structure Stamped (t : TaskInput) : Prop where
  started : t.status ∈ STARTED → t.actual_started_at.isSome
  finished : t.status = .done → t.actual_finished_at.isSome

/-- An edge into a skipped task. -/
def SkippedAfter (tasks : List TaskInput) (edges : List (ℕ × ℕ)) (p s : ℕ) : Prop :=
  (s, p) ∈ edges ∧ ∃ t ∈ tasks, t.id = s ∧ t.status = .skipped

/-- No task that is neither done nor skipped leads, through skipped tasks only, to
one that has started. -/
def NoBypass (tasks : List TaskInput) (edges : List (ℕ × ℕ)) : Prop :=
  ∀ u ∈ tasks, u.status ∉ SATISFIED_STATUSES →
    ∀ x, ReflTransGen (SkippedAfter tasks edges) u.id x →
      ∀ w ∈ tasks, (w.id, x) ∈ edges → w.status ∉ STARTED

/-! ## Times on the minute -/

/-- All times of a forecast are whole minutes. -/
def OnMinute (v : ℤ) : Prop := timedelta.minutes 1 ∣ v

theorem onMinute_utc (dt : DateTime) : OnMinute (_utc dt) := by
  refine ⟨dt / timedelta.minutes 1, ?_⟩
  have hdiv := Int.emod_add_mul_ediv dt (timedelta.minutes 1)
  exact sub_eq_of_eq_add' hdiv.symm

theorem onMinute_dur (t : TaskInput) : OnMinute (dur t) := by
  refine ⟨t.duration_minutes, ?_⟩
  simp only [dur, timedelta.minutes]
  omega

theorem OnMinute.max {a b : ℤ} (ha : OnMinute a) (hb : OnMinute b) : OnMinute (max a b) := by
  rcases max_choice a b with h | h
  · rwa [h]
  · rwa [h]

theorem OnMinute.add {a b : ℤ} (ha : OnMinute a) (hb : OnMinute b) : OnMinute (a + b) :=
  Int.dvd_add ha hb

theorem onMinute_getD {o : Option DateTime} {d : DateTime} (hd : OnMinute d) :
    OnMinute ((o.map _utc).getD d) := by
  cases o with
  | none => exact hd
  | some v => exact onMinute_utc v

theorem OnMinute.not_before {start : DateTime} (h : OnMinute start) (fixed : Option DateTime) :
    OnMinute (not_before fixed start) := by
  cases fixed with
  | none => exact h
  | some v => exact h.max (onMinute_utc v)

theorem onMinute_forecast_times {now driven : DateTime} (hnow : OnMinute now)
    (hdriven : OnMinute driven) (t : TaskInput) :
    OnMinute (forecast_times now t driven).1 ∧ OnMinute (forecast_times now t driven).2 := by
  have hdur := onMinute_dur t
  unfold forecast_times
  cases t.status with
  | not_started =>
    have hstart := (hdriven.not_before t.fixed_start_at).max hnow
    exact ⟨hstart, hstart.add hdur⟩
  | in_progress =>
    have hstart := onMinute_getD (o := t.actual_started_at) hnow
    exact ⟨hstart, (hstart.add hdur).max hnow⟩
  | failed =>
    have hstart := onMinute_getD (o := t.actual_started_at) hnow
    exact ⟨hstart, (hstart.add hdur).max hnow⟩
  | skipped => exact ⟨hdriven, hdriven⟩
  | done =>
    have hstart : OnMinute (((t.actual_started_at.map _utc).or
        (t.actual_finished_at.map _utc)).getD driven) := by
      cases t.actual_started_at with
      | none => exact onMinute_getD hdriven
      | some v => exact onMinute_utc v
    exact ⟨hstart, onMinute_getD hstart⟩

/-! ## The forecast as a network -/

section Network

variable {tasks : List TaskInput} {edges : List (ℕ × ℕ)} {anchor now : DateTime}
  {order : List ℕ}

/-- The task waits for what it depends on: nothing of its own is recorded. -/
def Moves (tasks : List TaskInput) (i : ℕ) : Prop :=
  ∃ t ∈ tasks, t.id = i ∧ (t.status = .not_started ∨ t.status = .skipped)

/-- What holds a waiting task back besides its predecessors. -/
def base (tasks : List TaskInput) (edges : List (ℕ × ℕ)) (anchor now : DateTime) (i : ℕ) :
    Set ℤ :=
  {v | preds edges i = [] ∧ v = anchor ∨
    ∃ t ∈ tasks, t.id = i ∧ t.status = .not_started ∧
      (v = now ∨ ∃ fixed ∈ t.fixed_start_at, v = _utc fixed)}

/-- Where the predecessors of a task are through. -/
theorem driven_greatest (finish : ℕ → DateTime) (i : ℕ) :
    IsGreatest ({v | preds edges i = [] ∧ v = anchor} ∪
        {v | ∃ p, Edge edges p i ∧ finish p = v})
      (max_of anchor ((preds edges i).map finish)) := by
  by_cases hnone : preds edges i = []
  · rw [hnone]
    refine ⟨Or.inl ⟨rfl, rfl⟩, ?_⟩
    rintro v (⟨-, rfl⟩ | ⟨p, hp, -⟩)
    · exact le_rfl
    · have hmem := mem_preds.2 hp
      rw [hnone] at hmem
      cases hmem
  · obtain ⟨⟨p, hp, hmet⟩, hle⟩ := max_of_map anchor hnone finish
    refine ⟨Or.inr ⟨p, mem_preds.1 hp, hmet.symm⟩, ?_⟩
    rintro v (⟨habs, -⟩ | ⟨q, hq, rfl⟩)
    · exact absurd habs hnone
    · exact hle q (mem_preds.2 hq)

theorem le_not_before (fixed : Option DateTime) (start : DateTime) :
    start ≤ not_before fixed start := by
  cases fixed with
  | none => exact le_rfl
  | some v => exact le_max_left _ _

theorem not_before_cases (fixed : Option DateTime) (start : DateTime) :
    not_before fixed start = start ∨ ∃ v ∈ fixed, not_before fixed start = _utc v := by
  cases fixed with
  | none => exact Or.inl rfl
  | some v =>
    rcases max_choice start (_utc v) with h | h
    · exact Or.inl h
    · exact Or.inr ⟨v, rfl, h⟩

/-- What drives a task is among what holds it back. -/
theorem driven_mem (finish : ℕ → DateTime) (i : ℕ) :
    max_of anchor ((preds edges i).map finish) ∈
      base tasks edges anchor now i ∪ {v | ∃ p, Edge edges p i ∧ finish p = v} := by
  rcases (@driven_greatest edges anchor finish i).1 with hnone | hpred
  · exact Or.inl (Or.inl hnone)
  · exact Or.inr hpred

/-- A skipped task has nothing else. -/
theorem skipped_starts_at (hids : (tasks.map TaskInput.id).Nodup) {t : TaskInput} (ht : t ∈ tasks)
    (hstatus : t.status = .skipped) (finish : ℕ → DateTime) :
    Slack.StartsAt (Edge edges) (base tasks edges anchor now) finish t.id
      (max_of anchor ((preds edges t.id).map finish)) := by
  have hle := (@driven_greatest edges anchor finish t.id).2
  refine ⟨driven_mem finish t.id, ?_⟩
  rintro v ((hnone | ⟨t', ht', hid, hother, -⟩) | hpred)
  · exact hle (Or.inl hnone)
  · obtain rfl : t' = t := List.inj_on_of_nodup_map hids ht' ht hid
    rw [hstatus] at hother
    cases hother
  · exact hle (Or.inr hpred)

/-- A task that is not started has its own earliest start, and now. -/
theorem not_started_starts_at (hids : (tasks.map TaskInput.id).Nodup) {t : TaskInput}
    (ht : t ∈ tasks) (hstatus : t.status = .not_started) (finish : ℕ → DateTime) :
    Slack.StartsAt (Edge edges) (base tasks edges anchor now) finish t.id
      (max (not_before t.fixed_start_at (max_of anchor ((preds edges t.id).map finish))) now) := by
  have hle := (@driven_greatest edges anchor finish t.id).2
  have hbefore := le_not_before t.fixed_start_at (max_of anchor ((preds edges t.id).map finish))
  constructor
  · -- it starts at one of them
    rcases max_choice (not_before t.fixed_start_at
      (max_of anchor ((preds edges t.id).map finish))) now with h | h
    · rw [h]
      rcases not_before_cases t.fixed_start_at
        (max_of anchor ((preds edges t.id).map finish)) with hd | ⟨v, hv, hfixed⟩
      · rw [hd]
        exact driven_mem finish t.id
      · rw [hfixed]
        exact Or.inl (Or.inr ⟨t, ht, rfl, hstatus, Or.inr ⟨v, hv, rfl⟩⟩)
    · rw [h]
      exact Or.inl (Or.inr ⟨t, ht, rfl, hstatus, Or.inl rfl⟩)
  · -- and at none earlier
    rintro v ((hnone | ⟨t', ht', hid, -, hown⟩) | hpred)
    · exact ((hle (Or.inl hnone)).trans hbefore).trans (le_max_left _ _)
    · obtain rfl : t' = t := List.inj_on_of_nodup_map hids ht' ht hid
      rcases hown with rfl | ⟨fixed, hfixed, rfl⟩
      · exact le_max_right _ _
      · have hnb : _utc fixed ≤ not_before t'.fixed_start_at
            (max_of anchor ((preds edges t'.id).map finish)) := by
          rw [Option.mem_def.1 hfixed]
          exact le_max_right _ _
        exact hnb.trans (le_max_left _ _)
    · exact ((hle (Or.inr hpred)).trans hbefore).trans (le_max_left _ _)

/-- A waiting task starts at the latest of what holds it back. -/
theorem forecast_starts_at (hids : (tasks.map TaskInput.id).Nodup) {t : TaskInput} (ht : t ∈ tasks)
    (hmoves : t.status = .not_started ∨ t.status = .skipped) (finish : ℕ → DateTime) :
    Slack.StartsAt (Edge edges) (base tasks edges anchor now) finish t.id
      (forecast_times now t (max_of anchor ((preds edges t.id).map finish))).1 := by
  rcases hmoves with hstatus | hstatus
  · have hstart : (forecast_times now t (max_of anchor ((preds edges t.id).map finish))).1 =
        max (not_before t.fixed_start_at (max_of anchor ((preds edges t.id).map finish))) now := by
      simp only [forecast_times, hstatus]
    rw [hstart]
    exact not_started_starts_at hids ht hstatus finish
  · have hstart : (forecast_times now t (max_of anchor ((preds edges t.id).map finish))).1 =
        max_of anchor ((preds edges t.id).map finish) := by
      simp only [forecast_times, hstatus]
    rw [hstart]
    exact skipped_starts_at hids ht hstatus finish

/-- What a waiting task takes does not depend on when it starts. -/
theorem forecast_length {t : TaskInput}
    (hmoves : t.status = .not_started ∨ t.status = .skipped) (driven : DateTime) :
    (forecast_times now t driven).2 - (forecast_times now t driven).1 =
      if t.status = .not_started then dur t else 0 := by
  rcases hmoves with hstatus | hstatus
  · simp [forecast_times, hstatus]
  · simp [forecast_times, hstatus]

theorem dur_nonneg (t : TaskInput) : 0 ≤ dur t :=
  Int.mul_nonneg (Int.natCast_nonneg _) (by decide)

/-- Recorded times stay, whatever the predecessors do. -/
theorem forecast_recorded {t : TaskInput} (hstamped : Stamped t) (hstarted : t.status ∈ STARTED)
    (driven driven' : DateTime) : forecast_times now t driven = forecast_times now t driven' := by
  obtain ⟨started, hat⟩ := Option.isSome_iff_exists.1 (hstamped.started hstarted)
  -- the times of a started task are read off its row
  cases hstatus : t.status with
  | not_started => rw [hstatus] at hstarted; exact absurd hstarted (by decide)
  | skipped => rw [hstatus] at hstarted; exact absurd hstarted (by decide)
  | in_progress => simp [forecast_times, hstatus]
  | failed => simp [forecast_times, hstatus]
  | done => simp [forecast_times, hstatus, hat]

/-- What does not come after `k` is not touched by its delay. -/
theorem Ordered.unreached (h : Ordered tasks edges order) (k x : ℕ)
    (hx : ¬ ReflTransGen (Edge edges) k x) :
    (slipped_pass tasks edges anchor now k order).f_finish x =
      (forecast_pass tasks edges anchor now order).f_finish x := by
  induction x using h.wellFounded.induction with
  | h x ih =>
    by_cases hmem : x ∈ order
    · obtain ⟨t, ht⟩ := h.task hmem
      have hxk : x ≠ k := by
        rintro rfl
        exact hx ReflTransGen.refl
      -- none of its predecessors is reached either
      have hmap : (preds edges x).map (slipped_pass tasks edges anchor now k order).f_finish =
          (preds edges x).map (forecast_pass tasks edges anchor now order).f_finish :=
        List.map_congr_left fun p hp =>
          ih p (mem_preds.1 hp) fun hkp => hx (hkp.tail (mem_preds.1 hp))
      rw [(h.slipped_eq k hmem ht).2, (h.forecast_eq hmem ht).2, hmap, delay_of, if_neg hxk,
        add_zero]
    · obtain ⟨-, hplain, hslipped⟩ := @Ordered.outside tasks edges anchor now order h k x hmem
      rw [hplain, hslipped]

theorem Ordered.grid (h : Ordered tasks edges order) (hanchor : OnMinute anchor)
    (hnow : OnMinute now) (x : ℕ) :
    OnMinute ((forecast_pass tasks edges anchor now order).f_start x) ∧
      OnMinute ((forecast_pass tasks edges anchor now order).f_finish x) := by
  induction x using h.wellFounded.induction with
  | h x ih =>
    by_cases hmem : x ∈ order
    · obtain ⟨t, ht⟩ := h.task hmem
      have hdriven : OnMinute (max_of anchor
          ((preds edges x).map (forecast_pass tasks edges anchor now order).f_finish)) := by
        obtain ⟨hmet, -⟩ := @driven_greatest edges anchor
          (forecast_pass tasks edges anchor now order).f_finish x
        rcases hmet with ⟨-, heq⟩ | ⟨p, hp, heq⟩
        · rw [heq]
          exact hanchor
        · rw [← heq]
          exact (ih p hp).2
      rw [(h.forecast_eq hmem ht).1, (h.forecast_eq hmem ht).2]
      exact onMinute_forecast_times hnow hdriven t
    · obtain ⟨hstart, hfinish, -⟩ := @Ordered.outside tasks edges anchor now order h 0 x hmem
      rw [hstart, hfinish]
      exact ⟨hanchor, hanchor⟩

/-- The forecast and its rerun are a network with a delay, if all that comes after
`k` waits. -/
theorem Ordered.delay (h : Ordered tasks edges order) (hstamped : ∀ t ∈ tasks, Stamped t)
    (hanchor : OnMinute anchor) (hnow : OnMinute now) {k : ℕ} (hk : k ∈ order)
    (hfollows : ∀ x, TransGen (Edge edges) k x → Moves tasks x) :
    Slack.Delay (Edge edges) (base tasks edges anchor now) (Moves tasks)
      (forecast_pass tasks edges anchor now order).f_start
      (forecast_pass tasks edges anchor now order).f_finish
      (slipped_pass tasks edges anchor now k order).f_start
      (slipped_pass tasks edges anchor now k order).f_finish k (timedelta.minutes 1) where
  pos := by decide
  grid := h.grid hanchor hnow
  source := by
    obtain ⟨t, ht⟩ := h.task hk
    -- nothing that `k` waits for comes after it, so all of that is as it was
    have hmap : (preds edges k).map (slipped_pass tasks edges anchor now k order).f_finish =
        (preds edges k).map (forecast_pass tasks edges anchor now order).f_finish :=
      List.map_congr_left fun p hp => h.unreached k p fun hkp =>
        h.acyclic k (TransGen.tail' hkp (mem_preds.1 hp))
    rw [(h.slipped_eq k hk ht).2, (h.forecast_eq hk ht).2, hmap, delay_of, if_pos rfl]
  still := by
    intro x hxk hnot
    by_cases hmem : x ∈ order
    · obtain ⟨t, ht⟩ := h.task hmem
      obtain ⟨htask, hid⟩ := (by_id_some h.ids).1 ht
      -- what does not wait has started, and keeps the times it has recorded
      have hstarted : t.status ∈ STARTED := by
        have hwaits : ¬ (t.status = .not_started ∨ t.status = .skipped) :=
          fun hstatus => hnot ⟨t, htask, hid, hstatus⟩
        revert hwaits
        cases t.status <;> decide
      rw [(h.slipped_eq k hmem ht).2, (h.forecast_eq hmem ht).2, delay_of, if_neg hxk, add_zero,
        forecast_recorded (hstamped t htask) hstarted]
    · obtain ⟨-, hplain, hslipped⟩ := @Ordered.outside tasks edges anchor now order h k x hmem
      rw [hplain, hslipped]
  moved := by
    rintro x hxk ⟨t, htask, rfl, hstatus⟩
    have ht : by_id tasks t.id = some t := (by_id_some h.ids).2 ⟨htask, rfl⟩
    have hmem : t.id ∈ order := (h.mem_iff t.id).2 (List.mem_map_of_mem htask)
    obtain ⟨hstart, hfinish⟩ := @Ordered.forecast_eq tasks edges anchor now order h t.id hmem t ht
    obtain ⟨hstart', hfinish'⟩ :=
      @Ordered.slipped_eq tasks edges anchor now order h k t.id hmem t ht
    rw [delay_of, if_neg hxk, add_zero] at hfinish'
    rw [hstart, hstart', hfinish, hfinish']
    refine ⟨forecast_starts_at h.ids htask hstatus _, forecast_starts_at h.ids htask hstatus _, ?_⟩
    rw [forecast_length hstatus, forecast_length hstatus]
  follows := hfollows

/-- Without a bypass, all that comes after a task that is not through waits. -/
theorem NoBypass.follows (h : NoBypass tasks edges)
    (hknown : ∀ p s, Edge edges p s → s ∈ tasks.map TaskInput.id) {u : TaskInput} (hu : u ∈ tasks)
    (hopen : u.status ∉ SATISFIED_STATUSES) (x : ℕ) (hx : TransGen (Edge edges) u.id x) :
    Moves tasks x := by
  -- whatever is reached is reached from some such task through skipped ones
  have hnext : ∀ v ∈ tasks, v.status ∉ SATISFIED_STATUSES → ∀ y,
      ReflTransGen (SkippedAfter tasks edges) v.id y → ∀ s, Edge edges y s →
      Moves tasks s ∧ ∃ v' ∈ tasks, v'.status ∉ SATISFIED_STATUSES ∧
        ReflTransGen (SkippedAfter tasks edges) v'.id s := by
    intro v hv hvopen y hvy s hys
    obtain ⟨w, hw, rfl⟩ := List.mem_map.1 (hknown y s hys)
    have hnot := h v hv hvopen y hvy w hw hys
    cases hstatus : w.status with
    | not_started =>
      refine ⟨⟨w, hw, rfl, Or.inl hstatus⟩, w, hw, ?_, ReflTransGen.refl⟩
      rw [hstatus]
      decide
    | skipped =>
      exact ⟨⟨w, hw, rfl, Or.inr hstatus⟩, v, hv, hvopen, hvy.tail ⟨hys, w, hw, rfl, hstatus⟩⟩
    | in_progress => rw [hstatus] at hnot; exact absurd (by decide) hnot
    | done => rw [hstatus] at hnot; exact absurd (by decide) hnot
    | failed => rw [hstatus] at hnot; exact absurd (by decide) hnot
  have hall : Moves tasks x ∧ ∃ v ∈ tasks, v.status ∉ SATISFIED_STATUSES ∧
      ReflTransGen (SkippedAfter tasks edges) v.id x := by
    induction hx with
    | single hstep => exact hnext u hu hopen u.id ReflTransGen.refl _ hstep
    | tail _ hstep ih =>
      obtain ⟨-, v, hv, hvopen, hvy⟩ := ih
      exact hnext v hv hvopen _ hvy _ hstep
  exact hall.1

theorem max_of_greatest (hne : order ≠ []) (finish : ℕ → DateTime) :
    IsGreatest (finish '' {x | x ∈ order}) (max_of anchor (order.map finish)) := by
  obtain ⟨⟨x, hx, heq⟩, hle⟩ := max_of_map anchor hne finish
  refine ⟨⟨x, hx, heq.symm⟩, ?_⟩
  rintro v ⟨y, hy, rfl⟩
  exact hle y hy

/-- A waiting task starts when its predecessors are through, and ends no earlier. -/
theorem Ordered.waits (h : Ordered tasks edges order) {x s : ℕ} (hs : Edge edges x s)
    (hmoves : Moves tasks s) :
    let f := forecast_pass tasks edges anchor now order
    f.f_finish x ≤ f.f_start s ∧ f.f_start s ≤ f.f_finish s := by
  intro f
  obtain ⟨t, ht, rfl, hstatus⟩ := hmoves
  have hby : by_id tasks t.id = some t := (by_id_some h.ids).2 ⟨ht, rfl⟩
  obtain ⟨hstart, hfinish⟩ :=
    @Ordered.forecast_eq tasks edges anchor now order h t.id (h.known x t.id hs).2 t hby
  have hstarts := @forecast_starts_at tasks edges anchor now h.ids t ht hstatus f.f_finish
  have hlength := @forecast_length now t hstatus
    (max_of anchor ((preds edges t.id).map f.f_finish))
  rw [← hstart] at hstarts
  rw [← hstart, ← hfinish] at hlength
  refine ⟨hstarts.2 (Or.inr ⟨x, hs, rfl⟩), ?_⟩
  have hnonneg : 0 ≤ f.f_finish t.id - f.f_start t.id := by
    rw [hlength]
    split
    · exact dur_nonneg t
    · exact le_rfl
  exact sub_nonneg.1 hnonneg

/-- **The backward pass is right without a bypass.** -/
theorem Ordered.critical_iff (h : Ordered tasks edges order) (hstamped : ∀ t ∈ tasks, Stamped t)
    (hanchor : OnMinute anchor) (hnow : OnMinute now) (hbypass : NoBypass tasks edges)
    {u : TaskInput} (hu : u ∈ tasks) (hopen : u.status ∉ SATISFIED_STATUSES) :
    let f := forecast_pass tasks edges anchor now order
    let last := max_of anchor (order.map f.f_finish)
    let latest := backward_pass edges f last order
    (latest u.id = f.f_finish u.id ↔ last <
      max_of anchor (order.map (slipped_pass tasks edges anchor now u.id order).f_finish)) ∧
    (f.f_finish u.id = last → latest u.id = f.f_finish u.id) := by
  intro f last latest
  have hk : u.id ∈ order := (h.mem_iff u.id).2 (List.mem_map_of_mem hu)
  have hne : order ≠ [] := List.ne_nil_of_mem hk
  have hfollows := hbypass.follows (fun p s hps => (h.mem_iff s).1 (h.known p s hps).2) hu hopen
  have hdelay := @Ordered.delay tasks edges anchor now order h hstamped hanchor hnow u.id hk hfollows
  have hgreatest := @max_of_greatest anchor order hne
  have hmem : ∀ x, ReflTransGen (Edge edges) u.id x → x ∈ order := by
    intro x hx
    rcases ReflTransGen.cases_tail hx with rfl | ⟨p, -, hp⟩
    · exact hk
    · exact (h.known p x hp).2
  -- all that comes after `u` waits, so the slack there is what the backward pass takes it for
  have hwaits : ∀ x s, ReflTransGen (Edge edges) u.id x → Edge edges x s →
      f.f_finish x ≤ f.f_start s ∧ f.f_start s ≤ f.f_finish s :=
    fun x s hx hs => h.waits hs (hfollows s (TransGen.tail' hx hs))
  have hspec := (Slack.latest_spec h.wellFounded_swap (fun x hx => h.latest f last (hmem x hx))
    (fun x s hx hs => (hwaits x s hx hs).1) (fun x s hx hs => (hwaits x s hx hs).2)
    (fun x hx => (hgreatest f.f_finish).2 ⟨x, hmem x hx, rfl⟩) u.id ReflTransGen.refl).2.2
  refine ⟨hspec.trans ?_, fun hend => hspec.2 ⟨u.id, ReflTransGen.refl, hend⟩⟩
  exact (hdelay.end_lt_iff h.wellFounded (hgreatest f.f_finish) (hgreatest _) hmem).symm

end Network

/-! ## The law without a bypass -/

section Law

variable {tasks : List TaskInput} {edges : List (ℕ × ℕ)}

theorem ordered_of_ok (hids : (tasks.map TaskInput.id).Nodup) {order : List ℕ}
    (hok : topological_order (tasks.map TaskInput.id) (known_edges tasks edges) = .ok order) :
    Ordered tasks (known_edges tasks edges) order := by
  have hknown : ∀ p s, Edge (known_edges tasks edges) p s →
      Waits (tasks.map TaskInput.id) (known_edges tasks edges) p s := by
    intro p s hps
    obtain ⟨-, hs, hp⟩ := mem_known_edges.1 hps
    exact ⟨hps, hs, hp⟩
  have hacyclic := topological_order_ok_iff.1 ⟨order, hok⟩
  obtain ⟨order', hok', htopological⟩ := topological_order_ok hacyclic
  obtain rfl : order' = order := Except.ok.inj (hok'.symm.trans hok)
  exact
    { ids := hids
      known := fun p s hps => ⟨(htopological.mem_iff p).2 (hknown p s hps).2.2,
        (htopological.mem_iff s).2 (hknown p s hps).2.1⟩
      acyclic := hacyclic.mono hknown
      nodup := htopological.nodup
      mem_iff := htopological.mem_iff
      follows := htopological.ordered.imp fun hnot hba => hnot (hknown _ _ hba) }

theorem NoBypass.known (h : NoBypass tasks edges) : NoBypass tasks (known_edges tasks edges) := by
  intro u hu hopen x hx w hw hedge
  have hpath : ReflTransGen (SkippedAfter tasks edges) u.id x :=
    ReflTransGen.mono (fun _ _ hps => ⟨(mem_known_edges.1 hps.1).1, hps.2⟩) _ _ hx
  exact h u hu hopen x hpath w hw (mem_known_edges.1 hedge).1

theorem NoBypass.of_known (h : NoBypass tasks (known_edges tasks edges)) :
    NoBypass tasks edges := by
  intro u hu hopen x hx
  -- a path through skipped tasks does not leave the plan
  have hpath : ReflTransGen (SkippedAfter tasks (known_edges tasks edges)) u.id x ∧
      ∃ v ∈ tasks, v.id = x := by
    induction hx with
    | refl => exact ⟨ReflTransGen.refl, u, hu, rfl⟩
    | tail _ hstep ih =>
      obtain ⟨hpath, v, hv, rfl⟩ := ih
      obtain ⟨hedge, t, ht, rfl, hskipped⟩ := hstep
      have hknown := mem_known_edges.2
        ⟨hedge, List.mem_map_of_mem (f := TaskInput.id) ht, List.mem_map_of_mem (f := TaskInput.id) hv⟩
      exact ⟨hpath.tail ⟨hknown, t, ht, rfl, hskipped⟩, t, ht, rfl⟩
  obtain ⟨hpath, v, hv, rfl⟩ := hpath
  intro w hw hedge
  refine h u hu hopen v.id hpath w hw (mem_known_edges.2 ⟨hedge, ?_, ?_⟩)
  · exact List.mem_map_of_mem hw
  · exact List.mem_map_of_mem hv

/-- The row of a task in what `compute` returns. -/
theorem mem_rows (hids : (tasks.map TaskInput.id).Nodup) {order : List ℕ} {now : DateTime}
    {p : Planned} {f : Forecast} {latest : ℕ → DateTime} {row : ℕ × TaskSchedule} {t : TaskInput}
    (ht : t ∈ tasks) (hrow : row ∈ order.filterMap fun i =>
      (by_id tasks i).map fun t => (i, task_schedule now p f latest i t)) (hid : row.1 = t.id) :
    row.2 = task_schedule now p f latest t.id t := by
  obtain ⟨i, -, hi⟩ := List.mem_filterMap.1 hrow
  obtain ⟨t', hby, rfl⟩ := Option.map_eq_some_iff.1 hi
  obtain rfl : i = t.id := hid
  obtain rfl : t' = t := Option.some.inj (hby.symm.trans ((by_id_some hids).2 ⟨ht, rfl⟩))
  rfl

/-- **Without a bypass `critical` is what it says**, at every time. -/
theorem law_of_noBypass (hids : (tasks.map TaskInput.id).Nodup)
    (hstamped : ∀ t ∈ tasks, Stamped t) (h : NoBypass tasks edges) (anchor now : DateTime) :
    CriticalPathLaw anchor tasks edges now := by
  cases horder : topological_order (tasks.map TaskInput.id) (known_edges tasks edges) with
  | error left =>
    have hcompute : compute anchor tasks edges now = .error left := by
      simp only [compute, horder]
      rfl
    simp only [CriticalPathLaw, hcompute]
  | ok order =>
    have hordered := ordered_of_ok hids horder
    simp only [CriticalPathLaw, compute, DelaysEnd, slipped_forecast_end, horder]
    intro t ht hopen row hrow hid
    obtain ⟨hiff, hend⟩ := hordered.critical_iff hstamped (onMinute_utc anchor) (onMinute_utc now)
      h.known ht hopen
    rw [mem_rows hids ht hrow hid]
    simp only [task_schedule, decide_eq_true_eq]
    exact ⟨⟨fun hcritical => hiff.1 hcritical.2, fun hlt => ⟨hopen, hiff.2 hlt⟩⟩,
      fun heq => ⟨hopen, hend heq⟩⟩

end Law

end EnvMgr.Runbook
