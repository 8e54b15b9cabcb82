/-
No committed event is skipped.

While an event waits, every batch that is polled has it or is full, and full of events
created no later. So an event is passed over only for older ones or for ones of the same
instant, fifty with each batch that the worker commits; there are finitely many of those.
-/
import EnvMgr.Outbox.Acknowledged

namespace EnvMgr.Outbox

variable {s s' : State} {m : Move} {e : EventLog}

/-- How many batches are committed in the run. -/
def completed : State → List Move → ℕ
  | _, [] => 0
  | s, m :: ms => (completes s m).toNat + completed (step s m) ms

/-- The row has `published_at` now. -/
def published (s : State) (e : EventLog) : Prop :=
  ∃ r ∈ s.event_log, r.id = e.id ∧ r.published_at ≠ none

/-- The published rows that were created up to `instant`. -/
def published_up_to (s : State) (instant : DateTime) : List EventLog :=
  s.event_log.select fun r => r.published_at ≠ none ∧ r.created_at ≤ instant

/-- However a run goes on, a committed event is published in it, unless each batch that
is committed, but for the one at hand, has fifty events created no later. -/
def NoneSkipped (s : State) : Prop :=
  ∀ e ∈ s.event_log, committed s e → ∀ ms : List Move,
    published (Runs.run step s ms) e ∨
      BATCH_SIZE * (completed s ms - 1)
        ≤ (published_up_to (Runs.run step s ms) e.created_at).length

@[simp] theorem mem_published_up_to {instant : DateTime} {r : EventLog} :
    r ∈ published_up_to s instant ↔
      r ∈ s.event_log ∧ r.published_at ≠ none ∧ r.created_at ≤ instant := by
  rw [published_up_to, Table.mem_select, decide_eq_true_eq]

theorem ids_nodup (s : State) (instant : DateTime) :
    ((published_up_to s instant).map EventLog.id).Nodup :=
  s.event_log.keys_nodup.sublist (List.filter_sublist.map _)

/-! ## One step -/

/-- A published row stays as it is. -/
theorem Step.keeps_published (h : Step s m s') (hs : WellFormed s) {r : EventLog}
    (hr : r ∈ s.event_log) (hpublished : r.published_at ≠ none) : r ∈ s'.event_log := by
  by_cases hm : m.by_worker = false
  · have hcommitted := (hs.consistent.unpublished_of_open hr).resolve_right hpublished
    exact ((h.undisturbed hs.consistent hm).1.rows r hr hcommitted).1
  · cases h with
    | idle | leave | poll | acked | unacknowledged => exact hr
    | begin_ | write | commit | rollback => exact absurd rfl hm
    | flush stamps hsession =>
      refine mem_flush.2 ⟨r, hr, ?_⟩
      rcases stamped_cases stamps r with ⟨now, hp, -⟩ | ⟨-, heq⟩
      · obtain ⟨r₀, hr₀, hid, -⟩ := (hs.holds _ hsession).stamps _ hp
        obtain ⟨hmem, -, hnone⟩ := mem_unpublished.1 hr₀
        obtain rfl := Table.eq_of_key_eq hmem hr hid
        exact absurd hnone hpublished
      · exact heq

/-- A committed row waits or is published. -/
theorem Step.keeps_waiting (h : Step s m s') (hs : WellFormed s) (he : e ∈ unpublished s) :
    e ∈ unpublished s' ∨ published s' e := by
  by_cases hm : m.by_worker = false
  · exact Or.inl ((h.undisturbed hs.consistent hm).1.unpublished he)
  · cases h with
    | idle | leave | poll | acked | unacknowledged => exact Or.inl he
    | begin_ | write | commit | rollback => exact absurd rfl hm
    | flush stamps hsession =>
      obtain ⟨hmem, hcommitted, hnone⟩ := mem_unpublished.1 he
      have hmem' := mem_flush_apply hmem stamps
      rcases stamped_cases stamps e with ⟨now, -, hset⟩ | ⟨-, heq⟩
      · exact Or.inr ⟨_, hmem', rfl, by simp [hset]⟩
      · rw [heq] at hmem'
        exact Or.inl (mem_unpublished.2 ⟨hmem', hcommitted, hnone⟩)

theorem Step.published_up_to_le (h : Step s m s') (hs : WellFormed s) (instant : DateTime) :
    (published_up_to s instant).length ≤ (published_up_to s' instant).length := by
  refine (List.subperm_of_subset ((ids_nodup s instant).of_map _) fun r hr => ?_).length_le
  obtain ⟨hmem, hpublished, hle⟩ := mem_published_up_to.1 hr
  exact mem_published_up_to.2 ⟨h.keeps_published hs hmem hpublished, hpublished, hle⟩

/-! ## The batch at hand -/

/-- The rows of the batch. -/
def Session.ids (session : Session) : List ℕ :=
  session.stamps.map Prod.fst ++ session.waiting.map EventLog.id

theorem Session.Holds.exists_row {session : Session} (h : session.Holds s) {id : ℕ}
    (hid : id ∈ session.ids) : ∃ r ∈ unpublished s, r.id = id := by
  rcases List.mem_append.1 hid with hid | hid
  · obtain ⟨p, hp, rfl⟩ := List.mem_map.1 hid
    obtain ⟨r, hr, hkey, -⟩ := h.stamps p hp
    exact ⟨r, hr, hkey⟩
  · obtain ⟨r, hr, rfl⟩ := List.mem_map.1 hid
    exact ⟨r, h.waiting r hr, rfl⟩

theorem eq_of_unpublished {r r' : EventLog} (hr : r ∈ unpublished s) (hr' : r' ∈ unpublished s)
    (hid : r.id = r'.id) : r = r' :=
  Table.eq_of_key_eq (mem_unpublished.1 hr).1 (mem_unpublished.1 hr').1 hid

/-- The batch has the event, or is full of events created no later. -/
def Fair (s : State) (e : EventLog) : Prop :=
  ∀ session ∈ s.worker.session, e.id ∈ session.ids ∨
    (session.ids.length = BATCH_SIZE ∧
      ∀ r ∈ unpublished s, r.id ∈ session.ids → r.created_at ≤ e.created_at)

theorem fair_of_no_session (h : s.worker.session = none) (e : EventLog) : Fair s e := by
  intro session hsession
  rw [h] at hsession
  cases hsession

theorem Undisturbed.fair (h : Undisturbed s s') (hs : WellFormed s) (hfair : Fair s e) :
    Fair s' e := by
  intro session hsession
  rw [h.worker] at hsession
  refine (hfair session hsession).imp id (And.imp_right fun hle r hr hid => ?_)
  obtain ⟨r₀, hr₀, hkey⟩ := (hs.holds session hsession).exists_row hid
  obtain rfl := eq_of_unpublished (h.unpublished hr₀) hr hkey
  exact hle r₀ hr₀ hid

/-- The `LIMIT` cuts off what comes later. -/
theorem fair_poll {answer : List EventLog}
    (hanswer : OrderBy.Answers EventLog.created_at (unpublished s) answer)
    (he : e ∈ unpublished s) :
    Fair (s.with_worker true (some ⟨[], answer.take BATCH_SIZE⟩)) e := by
  intro session hsession
  obtain rfl := Option.some.inj hsession
  by_cases htake : e ∈ answer.take BATCH_SIZE
  · exact Or.inl (List.mem_map_of_mem htake)
  · obtain ⟨hlength, hle⟩ := hanswer.full_of_not_mem he htake
    refine Or.inr ⟨by simpa [Session.ids] using hlength, fun r hr hid => ?_⟩
    obtain ⟨r₀, hr₀, hkey⟩ := List.mem_map.1 hid
    obtain rfl := eq_of_unpublished (hanswer.mem_iff.1 (List.mem_of_mem_take hr₀)) hr hkey
    exact hle r₀ hr₀

theorem Step.fair (h : Step s m s') (hs : WellFormed s) (he : e ∈ unpublished s)
    (hfair : Fair s e) : Fair s' e := by
  by_cases hm : m.by_worker = false
  · exact (h.undisturbed hs.consistent hm).1.fair hs hfair
  · cases h with
    | idle => exact hfair
    | begin_ | write | commit | rollback => exact absurd rfl hm
    | leave | unacknowledged | flush => exact fair_of_no_session rfl e
    | poll answer _ hanswer => exact fair_poll hanswer he
    | acked now stamps event waiting hsession =>
      intro session hnew
      obtain rfl := Option.some.inj hnew
      -- the same rows, one of them on the other side
      have hids : Session.ids ⟨stamps ++ [(event.id, now)], waiting⟩
          = Session.ids ⟨stamps, event :: waiting⟩ := by
        simp [Session.ids]
      rw [hids]
      exact hfair _ hsession

/-- A batch is committed only when all of it is acknowledged. -/
theorem Step.completes (h : Step s m s') (hm : Outbox.completes s m = true) :
    ∃ stamps, s.worker.session = some ⟨stamps, []⟩ ∧ s' = Outbox.flush s stamps := by
  cases h with
  | idle _ hidle => exact absurd hm (by simp [hidle])
  | leave _ _ _ hidle => exact absurd hm (by simp [hidle])
  | begin_ | write | commit | rollback | poll | acked | unacknowledged => cases hm
  | flush stamps hsession => exact ⟨stamps, hsession, rfl⟩

/-- Committing a batch of events created up to `instant` publishes as many. -/
theorem published_up_to_flush (hs : WellFormed s) {stamps : List (ℕ × DateTime)}
    (hsession : s.worker.session = some ⟨stamps, []⟩) {instant : DateTime}
    (hle : ∀ r ∈ unpublished s, r.id ∈ stamps.map Prod.fst → r.created_at ≤ instant) :
    (published_up_to s instant).length + stamps.length
      ≤ (published_up_to (flush s stamps) instant).length := by
  have hholds := hs.holds _ hsession
  have hnodup : ((published_up_to s instant).map EventLog.id ++ stamps.map Prod.fst).Nodup := by
    refine List.nodup_append.2 ⟨ids_nodup s instant, by simpa using hholds.nodup, ?_⟩
    rintro id hid _ hid' rfl
    -- the rows of the batch are not published yet
    obtain ⟨r, hr, rfl⟩ := List.mem_map.1 hid
    obtain ⟨p, hp, hkey⟩ := List.mem_map.1 hid'
    obtain ⟨r₀, hr₀, hkey₀, -⟩ := hholds.stamps p hp
    obtain ⟨hmem, hpublished, -⟩ := mem_published_up_to.1 hr
    obtain ⟨hmem₀, -, hnone⟩ := mem_unpublished.1 hr₀
    obtain rfl := Table.eq_of_key_eq hmem₀ hmem (hkey₀.trans hkey)
    exact hpublished hnone
  have hsub : (published_up_to s instant).map EventLog.id ++ stamps.map Prod.fst
      ⊆ (published_up_to (flush s stamps) instant).map EventLog.id := by
    intro id hid
    rcases List.mem_append.1 hid with hid | hid
    · obtain ⟨r, hr, rfl⟩ := List.mem_map.1 hid
      obtain ⟨hmem, hpublished, hr⟩ := mem_published_up_to.1 hr
      exact List.mem_map_of_mem
        (mem_published_up_to.2
          ⟨(Step.flush stamps hsession).keeps_published hs hmem hpublished, hpublished, hr⟩)
    · obtain ⟨p, hp, rfl⟩ := List.mem_map.1 hid
      obtain ⟨r, hr, hkey, -⟩ := hholds.stamps p hp
      rw [← hkey] at hid ⊢
      have hmem := mem_flush_apply (mem_unpublished.1 hr).1 stamps
      refine List.mem_map.2 ⟨(stamp stamps).apply r, mem_published_up_to.2 ⟨hmem, ?_, hle r hr hid⟩,
        rfl⟩
      rcases stamped_cases stamps r with ⟨now, -, hset⟩ | ⟨hnot, -⟩
      · simp [hset]
      · exact absurd hid hnot
  simpa using (List.subperm_of_subset hnodup hsub).length_le

/-- One step brings the event, or what it adds to the committed batches it adds to the
published events created no later. -/
theorem Step.advances (h : Step s m s') (hs : WellFormed s) (he : e ∈ unpublished s)
    (hfair : Fair s e) (he' : e ∈ unpublished s') :
    (published_up_to s e.created_at).length + BATCH_SIZE * (Outbox.completes s m).toNat
      ≤ (published_up_to s' e.created_at).length := by
  cases hm : Outbox.completes s m with
  | false => simpa using h.published_up_to_le hs e.created_at
  | true =>
    obtain ⟨stamps, hsession, rfl⟩ := h.completes hm
    rcases hfair _ hsession with hid | ⟨hlength, hle⟩
    · -- the event is in the batch, so it has been published
      have hmem := mem_flush_apply (mem_unpublished.1 he).1 stamps
      rcases stamped_cases stamps e with ⟨now, -, hset⟩ | ⟨hnot, -⟩
      · have heq := Table.eq_of_key_eq (mem_unpublished.1 he').1 hmem rfl
        rw [← heq, (mem_unpublished.1 he').2.2] at hset
        cases hset
      · exact absurd (by simpa [Session.ids] using hid) hnot
    · have hflush := published_up_to_flush hs hsession fun r hr hid =>
        hle r hr (by simpa [Session.ids] using hid)
      have hstamps : stamps.length = BATCH_SIZE := by simpa [Session.ids] using hlength
      rw [hstamps] at hflush
      simpa using hflush

/-! ## Runs -/

theorem published_run (hs : WellFormed s) (h : published s e) (ms : List Move) :
    published (Runs.run step s ms) e := by
  induction ms generalizing s with
  | nil => exact h
  | cons m ms ih =>
    obtain ⟨r, hr, hid, hpublished⟩ := h
    have hr' := (step_cases s m).keeps_published hs hr hpublished
    exact ih (step_well_formed s m hs) ⟨r, hr', hid, hpublished⟩

theorem run_fair (hs : WellFormed s) (he : e ∈ unpublished s) (hfair : Fair s e) (ms : List Move) :
    published (Runs.run step s ms) e ∨
      (published_up_to s e.created_at).length + BATCH_SIZE * completed s ms
        ≤ (published_up_to (Runs.run step s ms) e.created_at).length := by
  induction ms generalizing s with
  | nil => exact Or.inr le_rfl
  | cons m ms ih =>
    have hstep := step_cases s m
    rcases hstep.keeps_waiting hs he with he' | hpublished
    · refine (ih (hstep.well_formed hs) he' (hstep.fair hs he hfair)).imp id fun hrest => ?_
      have hfirst := hstep.advances hs he hfair he'
      rw [completed, Nat.mul_add]
      exact (Nat.add_assoc .. ▸ Nat.add_le_add_right hfirst _).trans hrest
    · exact Or.inl (published_run (hstep.well_formed hs) hpublished ms)

theorem run_waiting (hs : WellFormed s) (he : e ∈ unpublished s) (ms : List Move) :
    published (Runs.run step s ms) e ∨
      BATCH_SIZE * (completed s ms - 1)
        ≤ (published_up_to (Runs.run step s ms) e.created_at).length := by
  induction ms generalizing s with
  | nil => exact Or.inr (Nat.zero_le _)
  | cons m ms ih =>
    have hstep := step_cases s m
    have hs' := hstep.well_formed hs
    rcases hstep.keeps_waiting hs he with he' | hpublished
    · by_cases hfair : Fair (step s m) e
      · -- of what comes now nothing but this step can be unfair
        refine (run_fair hs' he' hfair ms).imp id fun hrest => ?_
        have hone : (completes s m).toNat ≤ 1 := Bool.toNat_le _
        have hless : completed s (m :: ms) - 1 ≤ completed (step s m) ms := by
          rw [completed]
          omega
        exact (Nat.mul_le_mul_left _ hless).trans ((Nat.le_add_left _ _).trans hrest)
      -- an unfair batch is one that was polled before, and it is not committed yet
      · have hm : completes s m = false := by
          by_contra hcompletes
          obtain ⟨stamps, -, heq⟩ := hstep.completes (Bool.of_not_eq_false hcompletes)
          rw [heq] at hfair
          exact hfair (fair_of_no_session rfl e)
        rw [completed, hm, Bool.toNat_false, Nat.zero_add]
        exact ih hs' he'
    · exact Or.inl (published_run hs' hpublished ms)

theorem none_skipped (hs : WellFormed s) : NoneSkipped s := by
  intro e he hcommitted ms
  by_cases hnone : e.published_at = none
  · exact run_waiting hs (mem_unpublished.2 ⟨he, hcommitted, hnone⟩) ms
  · exact Or.inl (published_run hs ⟨e, he, rfl, hnone⟩ ms)

end EnvMgr.Outbox
