/-
Whether the gate and the overview agree about an outage.

Both look for a change request that is linked to the environment and plans an outage. The
gate reads neither the status of the request nor its scheduled window, stops at the end of
the outage window and asks for a subsystem; the overview leaves out what was rejected or
cancelled, falls back on the scheduled window and takes its end in. Of a decommissioned
environment it has no row at all.
-/
import EnvMgr.Outages.Model
import EnvMgr.Deployments.Truthful

namespace EnvMgr.Outages

open Statuses (ChangeRequest SubSystem)

variable {booking_id release_id : Option ℕ} {tenant_id : ℕ} {slug : String} {sub : SubSystem}

/-! ## The property -/

section

variable (db : Db) (env : Environment) (now : DateTime)

/-- For some subsystem, the gate is closed by the change request. -/
def Blocks (cr : ChangeRequest) : Prop :=
  ∃ subsystem_slug release_id booking_id response,
    evaluate db env.tenant_id env.name subsystem_slug release_id booking_id now = .ok response ∧
    ∃ b ∈ response.blockers, b.type = .change_request_outage ∧ b.ref_id = cr.id

/-- For some subsystem, the gate is closed by an outage. -/
def PreflightReports : Prop :=
  ∃ subsystem_slug release_id booking_id response,
    evaluate db env.tenant_id env.name subsystem_slug release_id booking_id now = .ok response ∧
    ∃ b ∈ response.blockers, b.type = .change_request_outage

/-- The change request is live, plans an outage and names the environment. -/
def Plans (cr : ChangeRequest) : Prop :=
  cr ∈ db.statuses.change_requests ∧ cr.tenant_id = env.tenant_id ∧ cr.deleted_at = none ∧
    cr.has_outage = true ∧ ∃ link ∈ db.cr_environments, link.change_request_id = cr.id ∧
      link.environment_id = env.id

/-- The overview has the environment, and goes by the change request. -/
def Counts (cr : ChangeRequest) : Prop :=
  env.status ≠ .decommissioned ∧ Plans db env cr ∧ planned_now now cr = true

/-- A row of the whole overview reports an outage of the environment. -/
def HealthReports : Prop :=
  ∃ row ∈ (health_overview db env.tenant_id now none).1,
    row.environment_id = env.id ∧ row.planned_outage = true

/-- They say the same, and neither goes by a rejected or a cancelled change request. -/
structure AgreesOn : Prop where
  same : PreflightReports db env now ↔ HealthReports db env now
  preflight : ∀ cr ∈ db.statuses.change_requests, Blocks db env now cr →
    cr.status ∉ INACTIVE_CR_STATUSES
  health : ∀ cr, Counts db env now cr → cr.status ∉ INACTIVE_CR_STATUSES

end

/-- They agree on every live environment. -/
def Agree (db : Db) (now : DateTime) : Prop :=
  ∀ env ∈ db.environments, env.deleted_at = none → AgreesOn db env now

/-! ## What the gate reports -/

section

variable {db : Db} {env : Environment} {now : DateTime} {cr : ChangeRequest}

/-- No other live environment of the tenant has the name. -/
def NameAlone (db : Db) (env : Environment) : Prop :=
  ∀ e ∈ db.environments, e.tenant_id = env.tenant_id → e.name = env.name →
    e.deleted_at = none → e = env

/-- The gate can be asked about the subsystem: it is the only one of its name. -/
def Askable (db : Db) (tenant_id : ℕ) (sub : SubSystem) : Prop :=
  (db.statuses.reference.subsystems.filter fun s =>
    s.tenant_id = tenant_id ∧ s.name = sub.name ∧ s.deleted_at = none) = [sub]

/-- Both bounds are set and the instant is between them, before the end. -/
def WindowOpen (cr : ChangeRequest) (now : DateTime) : Prop :=
  (∃ start ∈ cr.outage_start, start ≤ now) ∧ ∃ end_ ∈ cr.outage_end, now < end_

/-- The gate can be asked about what the request is scoped to. -/
def InScope (db : Db) (env : Environment) (cr : ChangeRequest) : Prop :=
  NameAlone db env ∧ ∃ sub, Askable db env.tenant_id sub ∧
    (cr.subsystem_id = none ∨ cr.subsystem_id = some sub.id)

/-- A walk over bookings adds no outage. -/
theorem walk_blockers (bookings : List (Bookings.Booking × Bookings.BookingRequest)) {w : Walk}
    (hw : ∀ b ∈ w.blockers, b.type ≠ .change_request_outage) :
    ∀ b ∈ (bookings.foldl (walk_booking release_id booking_id) w).blockers,
      b.type ≠ .change_request_outage := by
  induction bookings generalizing w with
  | nil => exact hw
  | cons pair bookings ih =>
    refine ih ?_
    obtain ⟨b, br⟩ := pair
    rw [walk_booking]
    split
    -- a blocker that the walk adds is a booking
    · split
      · split
        · exact hw
        · exact hw
      · intro blocker hblocker
        rcases List.mem_append.1 hblocker with hblocker | hblocker
        · exact hw blocker hblocker
        · rw [List.mem_singleton.1 hblocker]
          exact nofun
    · exact hw

theorem inactive_blockers_type : ∀ b ∈ inactive_blockers env, b.type ≠ .change_request_outage := by
  intro b hb
  unfold inactive_blockers at hb
  split at hb
  · rw [List.mem_singleton.1 hb]
    exact nofun
  · cases hb

theorem resolve_subsystem_ok :
    resolve_subsystem db tenant_id slug = .ok sub ↔
      (db.statuses.reference.subsystems.filter fun s =>
        s.tenant_id = tenant_id ∧ s.name = slug ∧ s.deleted_at = none) = [sub] := by
  rw [resolve_subsystem]
  split
  · rename_i heq
    rw [heq]
    exact iff_of_false nofun nofun
  · rename_i subsystem heq
    rw [heq, Except.ok.injEq, List.singleton_inj]
  · rename_i hnone hone
    refine iff_of_false nofun fun hsingle => ?_
    exact hone sub hsingle

/-- **What the gate answers**: for an environment alone of its name and a subsystem alone of
its own, and then the outages among its blockers are these. -/
theorem evaluate_ok (henv : env ∈ db.environments) (hlive : env.deleted_at = none)
    {subsystem_slug : String} {response : CanDeployResponse}
    (h : evaluate db env.tenant_id env.name subsystem_slug release_id booking_id now
      = .ok response) :
    NameAlone db env ∧ ∃ sub, resolve_subsystem db env.tenant_id subsystem_slug = .ok sub ∧
      ∀ b, b.type = .change_request_outage →
        (b ∈ response.blockers ↔ b ∈ outage_blockers db env.tenant_id env.id sub.id now) := by
  simp only [evaluate, bind_eq_ok] at h
  obtain ⟨found, hfound, env', henv', sub, hsub, h⟩ := h
  have hrows := Deployments.scalar_eq_ok hfound henv'
  have hmem : ∀ e, (e ∈ db.environments ∧ e.tenant_id = env.tenant_id ∧ e.name = env.name ∧
      e.deleted_at = none) ↔ e = env' := by
    intro e
    refine Iff.trans ?_ List.mem_singleton
    rw [← hrows, Table.mem_select, decide_eq_true_eq]
  obtain rfl := (hmem env).1 ⟨henv, rfl, rfl, hlive⟩
  obtain rfl := Except.ok.inj h
  refine ⟨fun e he htenant hname hdeleted => (hmem e).1 ⟨he, htenant, hname, hdeleted⟩, sub, hsub,
    fun b hb => ?_⟩
  rw [List.mem_append]
  exact or_iff_right fun hwalk => walk_blockers _ inactive_blockers_type b hwalk hb

theorem evaluate_isOk (henv : env ∈ db.environments) (hlive : env.deleted_at = none)
    (halone : NameAlone db env) (hsub : resolve_subsystem db env.tenant_id slug = .ok sub) :
    ∃ response, evaluate db env.tenant_id env.name slug none none now = .ok response := by
  have hrows : (db.environments.select fun e =>
      e.tenant_id = env.tenant_id ∧ e.name = env.name ∧ e.deleted_at = none) = [env] := by
    refine Table.select_eq_singleton henv (decide_eq_true ⟨rfl, rfl, hlive⟩) fun e he hp => ?_
    obtain ⟨htenant, hname, hdeleted⟩ := of_decide_eq_true hp
    exact halone e he htenant hname hdeleted
  simp only [evaluate, hrows, hsub]
  exact ⟨_, rfl⟩

theorem mem_outage_blockers {subsystem_id : ℕ} {b : CanDeployBlocker} :
    b ∈ outage_blockers db env.tenant_id env.id subsystem_id now ↔
      ∃ cr, (Plans db env cr ∧ WindowOpen cr now ∧
        (cr.subsystem_id = none ∨ cr.subsystem_id = some subsystem_id)) ∧
        ⟨.change_request_outage, "change_request", cr.id, some cr.title, cr.outage_end, none⟩ = b := by
  simp only [outage_blockers, open_outages, List.mem_map, List.mem_filter, Table.mem_select,
    decide_eq_true_eq]
  refine exists_congr fun cr => and_congr_left' ?_
  constructor
  · rintro ⟨⟨hcr, htenant, hlive, houtage, hstart, hend, hlink⟩, hscope⟩
    exact ⟨⟨hcr, htenant, hlive, houtage, hlink⟩, ⟨hstart, hend⟩, hscope⟩
  · rintro ⟨⟨hcr, htenant, hlive, houtage, hlink⟩, ⟨hstart, hend⟩, hscope⟩
    exact ⟨⟨hcr, htenant, hlive, houtage, hstart, hend, hlink⟩, hscope⟩

/-- A subsystem that can be asked about is found by its name. -/
theorem askable_iff :
    Askable db tenant_id sub ↔ ∃ slug, resolve_subsystem db tenant_id slug = .ok sub := by
  constructor
  · intro h
    exact ⟨sub.name, resolve_subsystem_ok.2 h⟩
  · rintro ⟨slug, h⟩
    have hrows := resolve_subsystem_ok.1 h
    have hsub : sub ∈ db.statuses.reference.subsystems.filter fun s =>
        s.tenant_id = tenant_id ∧ s.name = slug ∧ s.deleted_at = none := by
      rw [hrows]
      exact List.mem_singleton_self sub
    obtain ⟨-, rfl, -⟩ := of_decide_eq_true (List.mem_filter.1 hsub).2
    exact hrows

/-- **Which change requests close the gate.** -/
theorem blocks_iff (henv : env ∈ db.environments) (hlive : env.deleted_at = none)
    (hcr : cr ∈ db.statuses.change_requests) :
    Blocks db env now cr ↔ Plans db env cr ∧ WindowOpen cr now ∧ InScope db env cr := by
  constructor
  · rintro ⟨slug, release_id, booking_id, response, hok, b, hb, htype, href⟩
    obtain ⟨halone, sub, hsub, hblockers⟩ := evaluate_ok henv hlive hok
    obtain ⟨cr', ⟨hplans, hopen, hscope⟩, rfl⟩ := mem_outage_blockers.1 ((hblockers b htype).1 hb)
    obtain rfl : cr' = cr := Table.eq_of_key_eq hplans.1 hcr href
    exact ⟨hplans, hopen, halone, sub, askable_iff.2 ⟨slug, hsub⟩, hscope⟩
  · rintro ⟨hplans, hopen, halone, sub, hask, hscope⟩
    obtain ⟨slug, hsub⟩ := askable_iff.1 hask
    obtain ⟨response, hok⟩ := evaluate_isOk henv hlive halone hsub
    obtain ⟨-, sub', hsub', hblockers⟩ := evaluate_ok henv hlive hok
    obtain rfl := Except.ok.inj (hsub.symm.trans hsub')
    exact ⟨slug, none, none, response, hok, _,
      (hblockers _ rfl).2 (mem_outage_blockers.2 ⟨cr, ⟨hplans, hopen, hscope⟩, rfl⟩), rfl, rfl⟩

theorem preflightReports_iff (henv : env ∈ db.environments) (hlive : env.deleted_at = none) :
    PreflightReports db env now ↔ ∃ cr ∈ db.statuses.change_requests, Blocks db env now cr := by
  constructor
  · rintro ⟨slug, release_id, booking_id, response, hok, b, hb, htype⟩
    obtain ⟨-, sub, -, hblockers⟩ := evaluate_ok henv hlive hok
    obtain ⟨cr, ⟨hplans, -⟩, rfl⟩ := mem_outage_blockers.1 ((hblockers b htype).1 hb)
    exact ⟨cr, hplans.1, slug, release_id, booking_id, response, hok, _, hb, rfl, rfl⟩
  · rintro ⟨cr, -, slug, release_id, booking_id, response, hok, b, hb, htype, -⟩
    exact ⟨slug, release_id, booking_id, response, hok, b, hb, htype⟩

/-! ## What the overview reports -/

/-- The link has the tenant of the request, so the overview misses none for it. -/
theorem planned_outage_iff : _planned_outage db env.tenant_id env.id now = true ↔
    ∃ cr, Plans db env cr ∧ planned_now now cr = true := by
  simp only [_planned_outage, List.any_eq_true, Table.mem_select, decide_eq_true_eq]
  refine exists_congr fun cr => and_congr_left' ?_
  constructor
  · rintro ⟨hcr, htenant, ⟨link, hlink, hid, henv, -⟩, hlive, houtage⟩
    exact ⟨hcr, htenant, hlive, houtage, link, hlink, hid, henv⟩
  · rintro ⟨hcr, htenant, hlive, houtage, link, hlink, hid, henv⟩
    have howner := db.linked_tenant link hlink cr hcr hid.symm
    exact ⟨hcr, htenant, ⟨link, hlink, hid, henv, howner.trans htenant⟩, hlive, houtage⟩

theorem healthReports_iff (henv : env ∈ db.environments) (hlive : env.deleted_at = none) :
    HealthReports db env now ↔ ∃ cr, Counts db env now cr := by
  simp only [Counts, exists_and_left, ← planned_outage_iff]
  simp only [HealthReports, health_overview, Deployments.fetch_page, List.mem_map, mem_order_by,
    Table.mem_select, decide_eq_true_eq]
  constructor
  · rintro ⟨_, ⟨e, ⟨he, -, -, hstatus⟩, rfl⟩, hid, houtage⟩
    obtain rfl : e = env := Table.eq_of_key_eq he henv hid
    exact ⟨hstatus, houtage⟩
  · rintro ⟨hstatus, houtage⟩
    exact ⟨_, ⟨env, ⟨henv, rfl, hlive, hstatus⟩, rfl⟩, rfl, houtage⟩

theorem counts_active (h : Counts db env now cr) : cr.status ∉ INACTIVE_CR_STATUSES :=
  (of_decide_eq_true h.2.2).1

/-- An active change request whose window is open counts. -/
theorem counts_of_open (hstatus : env.status ≠ .decommissioned) (hplans : Plans db env cr)
    (hopen : WindowOpen cr now) (hactive : cr.status ∉ INACTIVE_CR_STATUSES) :
    Counts db env now cr := by
  obtain ⟨⟨start, hstart, hle⟩, end_, hend, hlt⟩ := hopen
  rw [Option.mem_def] at hstart hend
  refine ⟨hstatus, hplans, decide_eq_true ⟨hactive, ?_, ?_⟩⟩
  · rw [hstart]
    exact hle
  · rw [hend]
    exact hlt.le

/-! ## When they agree -/

/-- No open window is of a rejected or cancelled change request or on a decommissioned
environment, and where the overview goes by one, it goes by one whose window the gate reads as
open too. -/
structure Settled (db : Db) (env : Environment) (now : DateTime) : Prop where
  active : ∀ cr, Plans db env cr → WindowOpen cr now → InScope db env cr →
    env.status ≠ .decommissioned ∧ cr.status ∉ INACTIVE_CR_STATUSES
  bounded : env.status ≠ .decommissioned → ∀ cr, Plans db env cr → planned_now now cr = true →
    ∃ cr', Plans db env cr' ∧ WindowOpen cr' now ∧ InScope db env cr'

theorem agreesOn_iff (henv : env ∈ db.environments) (hlive : env.deleted_at = none) :
    AgreesOn db env now ↔ Settled db env now := by
  constructor
  · intro h
    refine ⟨fun cr hplans hopen hscope => ?_, fun hstatus cr hplans hnow => ?_⟩
    · have hblocks := (blocks_iff henv hlive hplans.1).2 ⟨hplans, hopen, hscope⟩
      have hreports := h.same.1 ((preflightReports_iff henv hlive).2 ⟨cr, hplans.1, hblocks⟩)
      obtain ⟨_, hstatus, -⟩ := (healthReports_iff henv hlive).1 hreports
      exact ⟨hstatus, h.preflight cr hplans.1 hblocks⟩
    · have hreports := h.same.2 ((healthReports_iff henv hlive).2 ⟨cr, hstatus, hplans, hnow⟩)
      obtain ⟨cr', hcr', hblocks⟩ := (preflightReports_iff henv hlive).1 hreports
      exact ⟨cr', (blocks_iff henv hlive hcr').1 hblocks⟩
  · intro h
    have hactive : ∀ cr ∈ db.statuses.change_requests, Blocks db env now cr →
        env.status ≠ .decommissioned ∧ cr.status ∉ INACTIVE_CR_STATUSES := by
      intro cr hcr hblocks
      obtain ⟨hplans, hopen, hscope⟩ := (blocks_iff henv hlive hcr).1 hblocks
      exact h.active cr hplans hopen hscope
    refine ⟨?_, fun cr hcr hblocks => (hactive cr hcr hblocks).2, fun cr => counts_active⟩
    rw [preflightReports_iff henv hlive, healthReports_iff henv hlive]
    -- what the gate reports the overview counts; the converse is the second condition
    constructor
    · rintro ⟨cr, hcr, hblocks⟩
      obtain ⟨hplans, hopen, -⟩ := (blocks_iff henv hlive hcr).1 hblocks
      obtain ⟨hstatus, hcr_active⟩ := hactive cr hcr hblocks
      exact ⟨cr, counts_of_open hstatus hplans hopen hcr_active⟩
    · rintro ⟨cr, hstatus, hplans, hnow⟩
      obtain ⟨cr', hplans', hopen, hscope⟩ := h.bounded hstatus cr hplans hnow
      exact ⟨cr', hplans'.1, (blocks_iff henv hlive hplans'.1).2 ⟨hplans', hopen, hscope⟩⟩

end

/-- **When the gate and the overview agree.** On all data, at every instant: exactly if on
every live environment the open windows are of active change requests, with none on one that is
decommissioned, and one of them is open wherever the overview reports an outage. -/
theorem agree_iff (db : Db) (now : DateTime) :
    Agree db now ↔ ∀ env ∈ db.environments, env.deleted_at = none → Settled db env now :=
  forall₃_congr fun _ henv hlive => agreesOn_iff henv hlive

namespace Sample

/-- An outage is planned and the change request is rejected. -/
def requests : List Statuses.Request :=
  [.create_change_request Lifecycle.Seeded.admin
      { Statuses.Sample.change 1 with
        has_outage := true
        outage_start := some 0
        outage_end := some 10 },
    .transition_change_request Lifecycle.Seeded.admin 1 "submitted",
    .transition_change_request Lifecycle.Seeded.admin 1 "rejected"]

def db : Db where
  statuses := Runs.run (Statuses.step Bookings.Sample.ext) Deployments.Sample.rows requests
  cr_environments := [⟨1, 1, 1⟩]
  cr_hosts := []
  environment_subsystems := []
  subsystem_hosts := []
  samples := []
  linked_tenant := by decide +kernel

end Sample

/-- The gate is closed by it, and the overview reports no outage. -/
theorem rejected_closes_gate : ¬ Agree Sample.db 5 := by
  intro h
  have hstored : ∃ env ∈ Sample.db.environments, env.deleted_at = none ∧ env.tenant_id = 1 ∧
      env.name = "staging" := by
    decide +kernel
  have hnone : ∀ row ∈ (health_overview Sample.db 1 5 none).1, row.planned_outage = false := by
    decide +kernel
  obtain ⟨env, henv, hlive, htenant, hname⟩ := hstored
  have hblocked : PreflightReports Sample.db env 5 := by
    rw [PreflightReports, htenant, hname]
    exact ⟨"checkout", none, none, _, rfl, _, List.mem_cons_self, rfl⟩
  obtain ⟨row, hrow, -, houtage⟩ := (h env henv hlive).same.1 hblocked
  rw [htenant] at hrow
  rw [hnone row hrow] at houtage
  cases houtage

/-! ## Environments reached through a host -/

/-- Neither goes by a change request that is not linked to the environment itself. -/
theorem derived_is_not_reported {db : Db} {env : Environment} {now : DateTime} {cr : ChangeRequest}
    (henv : env ∈ db.environments) (hlive : env.deleted_at = none)
    (hcr : cr ∈ db.statuses.change_requests)
    (hderived : ∀ link ∈ db.cr_environments, link.change_request_id = cr.id →
      link.environment_id ≠ env.id) :
    ¬ Blocks db env now cr ∧ ¬ Counts db env now cr := by
  have hno : ¬ Plans db env cr := by
    rintro ⟨-, -, -, -, link, hlink, hid, hlinked⟩
    exact hderived link hlink hid hlinked
  constructor
  · intro hblocks
    exact hno ((blocks_iff henv hlive hcr).1 hblocks).1
  · intro hcounts
    exact hno hcounts.2.1

/-- The schedule of the environment has whatever either goes by. -/
theorem planned_is_scheduled {db : Db} {env : Environment} {cr : ChangeRequest}
    {start_date end_date : DateTime} {schedule : Schedule}
    (hschedule : get_environment_schedule db env.id env.tenant_id start_date end_date
      = .ok schedule) (hplans : Plans db env cr) (hstart : start_date < cr.scheduled_end)
    (hend : cr.scheduled_start < end_date) : cr ∈ schedule.change_requests := by
  obtain ⟨hcr, htenant, hlive, -, link, hlink, hid, hlinked⟩ := hplans
  simp only [get_environment_schedule, bind_eq_ok] at hschedule
  obtain ⟨_, -, hschedule⟩ := hschedule
  obtain rfl := Except.ok.inj hschedule
  rw [mem_order_by, Table.mem_select, decide_eq_true_eq]
  refine ⟨hcr, htenant, hlive, hstart, hend, Or.inl (List.mem_map.2 ⟨link, ?_, hid⟩)⟩
  exact List.mem_filter.2 ⟨hlink, decide_eq_true hlinked⟩

end EnvMgr.Outages
