/-
What the deliveries of one event do, however often they come.

A pipeline delivers an event again until it is told that it arrived, and later with another
status. The deployment of the event is found by the tenant and the event's id, so only the first
delivery that is handled makes one, and a change request where it names none. A status is only
left for one that `ALLOWED_TRANSITIONS` has, and none of them leads to `success` but from a
deployment under way; so the version row is written once too.
-/
import EnvMgr.Deployments.Truthful
import EnvMgr.Lib.Once

namespace EnvMgr.Deployments

open Statuses (Build ChangeRequest Deployment DeploymentWebhookPayload)

variable {d own : Deployment} {delivery : Delivery} {v : EnvironmentSubSystemVersion}

/-! ## The property -/

section

variable (tenant_id : ℕ) (event_id : String)

def Delivery.IsOf (delivery : Delivery) : Prop :=
  delivery.tenant_id = tenant_id ∧ delivery.payload.event_id = event_id

/-- The deployments of the event. -/
def deployments_of (db : Db) : List Deployment :=
  db.statuses.deployments.select fun d => d.tenant_id = tenant_id ∧ d.event_id = event_id

def Succeeded (db : Db) : Prop := ∃ d ∈ deployments_of tenant_id event_id db, d.status = "success"

/-- A delivery of the event writes the version row. -/
def Installs (db : Db) (e : Event) (v : EnvironmentSubSystemVersion) : Prop :=
  ∃ delivery, e = .deliver delivery ∧ delivery.IsOf tenant_id event_id ∧
    v ∈ (step db e).versions ∧ v ∉ db.versions

/-- A delivery of the event makes the change request. -/
def Raises (db : Db) (e : Event) (cr_id : ℕ) : Prop :=
  ∃ delivery, e = .deliver delivery ∧ delivery.IsOf tenant_id event_id ∧
    (∃ cr ∈ (step db e).statuses.change_requests, cr.id = cr_id) ∧
    ∀ cr ∈ db.statuses.change_requests, cr.id ≠ cr_id

/-- A delivery of the event brings its deployment to `success`. -/
def Succeeds (db : Db) (e : Event) (_ : Unit) : Prop :=
  ∃ delivery, e = .deliver delivery ∧ delivery.IsOf tenant_id event_id ∧
    ¬ Succeeded tenant_id event_id db ∧ Succeeded tenant_id event_id (step db e)

end

/-- The rows that a delivery may write are as they were. -/
structure SameRows (db db' : Db) : Prop where
  deployments : db'.statuses.deployments = db.statuses.deployments
  builds : db'.statuses.builds = db.statuses.builds
  versions : db'.versions = db.versions
  change_requests : db'.statuses.change_requests = db.statuses.change_requests

/-- The delivery is refused, or repeats the status that its event has. -/
def Idle (db : Db) (delivery : Delivery) : Prop :=
  (∃ raised, handle db delivery = .error raised) ∨
    ∃ d ∈ deployments_of delivery.tenant_id delivery.payload.event_id db,
      d.status = delivery.payload.status

/-- Once for the event of the tenant, in the run from `start`: one deployment, which goes from
status to status as it may, one version row, one change request; the row exactly if the
deployment was brought to `success`. -/
structure DeliveredOnce (start : Db) (events : List Event) (tenant_id : ℕ) (event_id : String) :
    Prop where
  deployment : (deployments_of tenant_id event_id (Runs.run step start events)).length ≤ 1
  follows : ∀ before e after, events = before ++ e :: after →
    ∀ d ∈ deployments_of tenant_id event_id (Runs.run step start before),
      ∃ d' ∈ deployments_of tenant_id event_id (Runs.run step start (before ++ [e])),
        d'.id = d.id ∧ d'.status ∈ Statuses.ALLOWED_TRANSITIONS d.status
  version : ∀ before before' v v',
    Runs.MakesAt step (Installs tenant_id event_id) start events before v →
    Runs.MakesAt step (Installs tenant_id event_id) start events before' v' →
      before = before' ∧ v = v'
  change_request : ∀ before before' cr_id cr_id',
    Runs.MakesAt step (Raises tenant_id event_id) start events before cr_id →
    Runs.MakesAt step (Raises tenant_id event_id) start events before' cr_id' →
      before = before' ∧ cr_id = cr_id'
  installed : (∃ v ∈ (Runs.run step start events).versions, ∃ before,
      Runs.MakesAt step (Installs tenant_id event_id) start events before v) ↔
    ∃ before, Runs.MakesAt step (Succeeds tenant_id event_id) start events before ()
  idle : ∀ before delivery after, events = before ++ .deliver delivery :: after →
    Idle (Runs.run step start before) delivery →
    SameRows (Runs.run step start before) (Runs.run step start (before ++ [.deliver delivery]))

/-! ## What a delivery that is handled writes -/

section

variable {db : Statuses.Db} {tenant_id raised_by cr_id : ℕ} {payload : DeploymentWebhookPayload}
  {existing : Option Deployment} {now : DateTime}
  {change_requests change_requests' : Table ChangeRequest ChangeRequest.id}

/-- A change request is made for an event that has no deployment. -/
theorem resolve_change_request_ids
    (h : Statuses.resolve_change_request db tenant_id payload raised_by existing now =
      .ok (cr_id, change_requests)) :
    ∀ cr ∈ change_requests, cr ∈ db.change_requests ∨
      (existing = none ∧ cr.id = db.change_requests.next) := by
  intro cr hcr
  unfold Statuses.resolve_change_request at h
  split at h
  · obtain ⟨-, rfl⟩ := Prod.mk.inj (Except.ok.inj h)
    exact Or.inl hcr
  · split at h
    · simp only [bind_eq_ok] at h
      obtain ⟨_, -, h⟩ := h
      obtain ⟨-, rfl⟩ := Prod.mk.inj (Except.ok.inj h)
      exact Or.inl hcr
    · simp only [Statuses.create_code_deployment, bind_eq_ok] at h
      obtain ⟨tpl, -, h⟩ := h
      obtain ⟨-, rfl⟩ := Prod.mk.inj (Except.ok.inj h)
      rcases Table.mem_insert.1 hcr with hcr | rfl
      · exact Or.inl hcr
      · exact Or.inr ⟨rfl, rfl⟩

/-- The status that follows a deployment is written to a request that is there. -/
theorem sync_status_ids {target : Option String}
    (h : Statuses.sync_status change_requests cr_id tenant_id target = .ok change_requests') :
    ∀ cr ∈ change_requests', ∃ cr₀ ∈ change_requests, cr₀.id = cr.id := by
  intro cr hcr
  unfold Statuses.sync_status at h
  split at h
  · obtain rfl := Except.ok.inj h
    exact ⟨cr, hcr, rfl⟩
  · simp only [bind_eq_ok] at h
    obtain ⟨own, -, h⟩ := h
    split at h
    · obtain rfl := Except.ok.inj h
      exact ⟨cr, hcr, rfl⟩
    · obtain rfl := Except.ok.inj h
      rcases Table.mem_update_cases hcr with ⟨cr₀, hcr₀, -, rfl⟩ | ⟨hcr, -⟩
      · exact ⟨cr₀, hcr₀, rfl⟩
      · exact ⟨cr, hcr, rfl⟩

end

section

variable {db db' : Db} {tenant_id raised_by : ℕ} {payload : DeploymentWebhookPayload}
  {now : DateTime}

/-- The status is a known one, and a request is only made where there is no deployment. -/
theorem accepted_of_ok (h : ingest db tenant_id payload raised_by now = .ok db') :
    payload.status ∈ Statuses.ALLOWED_STATUSES ∧
      ∀ cr ∈ db'.statuses.change_requests,
        (∃ cr₀ ∈ db.statuses.change_requests, cr₀.id = cr.id) ∨
          (Statuses.existing_deployment db.statuses tenant_id payload = none ∧
            cr.id = db.statuses.change_requests.next) := by
  simp only [ingest, bind_eq_ok, raise_if_eq_ok, not_not] at h
  obtain ⟨_, hknown, h⟩ := h
  refine ⟨hknown, fun cr hcr => ?_⟩
  split at h
  · obtain rfl := Except.ok.inj h
    exact Or.inl ⟨cr, hcr, rfl⟩
  · simp only [bind_eq_ok] at h
    obtain ⟨_, -, _, -, _, -, _, -, _, -, ⟨cr_id, change_requests⟩, hresolved, synced, hsynced, h⟩ := h
    obtain rfl := Except.ok.inj h
    obtain ⟨cr₀, hcr₀, hid⟩ := sync_status_ids hsynced cr hcr
    rcases resolve_change_request_ids hresolved cr₀ hcr₀ with hcr₀ | ⟨hnone, hnext⟩
    · exact Or.inl ⟨cr₀, hcr₀, hid⟩
    · exact Or.inr ⟨hnone, hid.symm.trans hnext⟩

/-- All that a delivery writes which brings its deployment to another status. -/
structure Moves (db : Db) (tenant_id : ℕ) (payload : DeploymentWebhookPayload) (own : Deployment)
    (db' : Db) : Prop where
  known : payload.status ∈ Statuses.ALLOWED_STATUSES
  event : IsEvent tenant_id payload own
  status : own.status = payload.status
  allowed : ∀ d ∈ db.statuses.deployments, IsEvent tenant_id payload d → own.id = d.id ∧
    d.status ≠ payload.status ∧ payload.status ∈ Statuses.ALLOWED_TRANSITIONS d.status
  deployments : ∀ d, d ∈ db'.statuses.deployments ↔
    (d ∈ db.statuses.deployments ∧ ¬ IsEvent tenant_id payload d) ∨ d = own
  versions : ∃ new, new ∉ db.versions ∧
    ∀ v, v ∈ db'.versions ↔ v ∈ db.versions ∨ (payload.status = "success" ∧ v = new)
  change_requests : ∀ cr ∈ db'.statuses.change_requests,
    (∃ cr₀ ∈ db.statuses.change_requests, cr₀.id = cr.id) ∨
      ((∀ d ∈ db.statuses.deployments, ¬ IsEvent tenant_id payload d) ∧
        cr.id = db.statuses.change_requests.next)

/-- **What one delivery does**: nothing, or it moves the deployment of its event. -/
theorem moves_of_ok (hkept : Kept db) (h : ingest db tenant_id payload raised_by now = .ok db') :
    (db' = db ∧ ∃ d ∈ db.statuses.deployments, IsEvent tenant_id payload d ∧
      d.status = payload.status) ∨
    ∃ own, Moves db tenant_id payload own db' := by
  obtain ⟨hknown, hrequests⟩ := accepted_of_ok h
  cases ingested_of_ok h with
  | replayed hexisting hstatus =>
    obtain ⟨hd, hevent⟩ := existing_some hexisting
    exact Or.inl ⟨rfl, _, hd, hevent, hstatus⟩
  | @recorded subsystem_id environment_id change_request_id build builds synced hallowed hsubsystem
      henvironment hbuild =>
    refine Or.inr ⟨_, hknown, recorded_event, recorded_status _ _, fun d hd hevent => ?_,
      fun d => mem_record_deployment hkept, ?_, fun cr hcr => ?_⟩
    · have hexisting := existing_of_event hkept hd hevent
      obtain ⟨hne, htransition⟩ := hallowed d hexisting
      refine ⟨?_, hne, htransition⟩
      rw [hexisting]
      rfl
    · refine ⟨version_row payload build tenant_id environment_id subsystem_id now
        db.versions.next, fun hold => (Table.key_lt_next hold).ne rfl, fun v => ?_⟩
      change v ∈ record_version db payload build tenant_id environment_id subsystem_id now ↔ _
      unfold record_version
      by_cases hsuccess : payload.status = "success"
      · rw [if_pos hsuccess, Table.mem_insert]
        exact or_congr_right ⟨fun heq => ⟨hsuccess, heq⟩, fun heq => heq.2⟩
      · rw [if_neg hsuccess]
        exact (or_iff_left fun heq => hsuccess heq.1).symm
    · rcases hrequests cr hcr with hold | ⟨hnone, hnext⟩
      · exact Or.inl hold
      · exact Or.inr ⟨existing_none hnone, hnext⟩

end

/-! ## One step -/

/-- What is kept of every state, with every status a known one. -/
structure Sound (db : Db) : Prop extends Kept db where
  statuses : ∀ d ∈ db.statuses.deployments, d.status ∈ Statuses.ALLOWED_STATUSES

theorem sound_fresh (rows : Statuses.Db) (clock : DateTime) : Sound (Db.fresh rows clock) :=
  ⟨kept_fresh rows clock, fun d hd => absurd hd (Table.not_mem_empty d)⟩

/-- **All that a step can do**: leave the rows alone, or move the deployment of an event. -/
theorem step_cases {db : Db} (h : Kept db) (e : Event) :
    ((step db e).statuses.deployments = db.statuses.deployments ∧
      (step db e).versions = db.versions ∧
      ∀ delivery, e = .deliver delivery →
        (step db e).statuses.change_requests = db.statuses.change_requests) ∨
    ∃ delivery own, e = .deliver delivery ∧
      Moves db delivery.tenant_id delivery.payload own (step db e) := by
  cases e with
  | elsewhere rows =>
    refine Or.inl ⟨rfl, rfl, fun delivery hdeliver => ?_⟩
    cases hdeliver
  | deliver delivery =>
    rw [step]
    cases hhandle : handle db delivery with
    | error raised =>
      rw [rollback_error]
      exact Or.inl ⟨rfl, rfl, fun _ _ => rfl⟩
    | ok db' =>
      rw [commit_ok]
      rcases moves_of_ok (kept_wait h delivery.elapsed) hhandle with ⟨rfl, -⟩ | ⟨own, hmoves⟩
      · exact Or.inl ⟨rfl, rfl, fun _ _ => rfl⟩
      -- the time that passes first changes no row
      · exact Or.inr ⟨delivery, own, rfl, hmoves.known, hmoves.event, hmoves.status,
          hmoves.allowed, hmoves.deployments, hmoves.versions, hmoves.change_requests⟩

theorem sound_step {db : Db} (h : Sound db) (e : Event) : Sound (step db e) := by
  refine ⟨kept_step h.toKept e, ?_⟩
  rcases step_cases h.toKept e with ⟨hdeployments, -⟩ | ⟨delivery, own, -, hmoves⟩
  · rw [hdeployments]
    exact h.statuses
  · intro d hd
    rcases (hmoves.deployments d).1 hd with ⟨hd, -⟩ | rfl
    · exact h.statuses d hd
    · rw [hmoves.status]
      exact hmoves.known

/-! ## One event -/

/-- The statuses of a deployment under way. -/
def UNDER_WAY : List String := ["pending", "in_progress"]

theorem stays : ∀ s ∈ Statuses.ALLOWED_STATUSES, s ∈ Statuses.ALLOWED_TRANSITIONS s := by decide

theorem ended_stays : ∀ s ∈ Statuses.ALLOWED_STATUSES, ∀ s' ∈ Statuses.ALLOWED_TRANSITIONS s,
    s ∉ UNDER_WAY → s' ∉ UNDER_WAY := by
  decide

theorem success_from : ∀ s ∈ Statuses.ALLOWED_STATUSES,
    "success" ∈ Statuses.ALLOWED_TRANSITIONS s → s ≠ "success" → s ∈ UNDER_WAY := by
  decide

section

variable {db : Db} {e : Event} {tenant_id : ℕ} {event_id : String}

theorem mem_deployments_of :
    d ∈ deployments_of tenant_id event_id db ↔
      d ∈ db.statuses.deployments ∧ d.tenant_id = tenant_id ∧ d.event_id = event_id := by
  rw [deployments_of, Table.mem_select, decide_eq_true_eq]

/-- **Its status moves as it may**, whatever is delivered. -/
theorem follows_step (h : Sound db) (hd : d ∈ deployments_of tenant_id event_id db) :
    ∃ d' ∈ deployments_of tenant_id event_id (step db e),
      d'.id = d.id ∧ d'.status ∈ Statuses.ALLOWED_TRANSITIONS d.status := by
  obtain ⟨hmem, hevent⟩ := mem_deployments_of.1 hd
  have hstays := stays d.status (h.statuses d hmem)
  rcases step_cases h.toKept e with ⟨hdeployments, -⟩ | ⟨delivery, own, rfl, hmoves⟩
  · refine ⟨d, mem_deployments_of.2 ⟨?_, hevent⟩, rfl, hstays⟩
    rw [hdeployments]
    exact hmem
  · by_cases hown : IsEvent delivery.tenant_id delivery.payload d
    · obtain ⟨hid, -, htransition⟩ := hmoves.allowed d hmem hown
      refine ⟨own, mem_deployments_of.2 ⟨(hmoves.deployments own).2 (Or.inr rfl), ?_⟩, hid, ?_⟩
      · exact ⟨hmoves.event.1.trans (hown.1.symm.trans hevent.1),
          hmoves.event.2.trans (hown.2.symm.trans hevent.2)⟩
      · rw [hmoves.status]
        exact htransition
    · exact ⟨d, mem_deployments_of.2 ⟨(hmoves.deployments d).2 (Or.inl ⟨hmem, hown⟩), hevent⟩,
        rfl, hstays⟩

/-- Of a delivery of the event, the deployment that it moves is the event's. -/
theorem of_event (hof : delivery.IsOf tenant_id event_id) :
    IsEvent delivery.tenant_id delivery.payload d ↔
      d.tenant_id = tenant_id ∧ d.event_id = event_id := by
  rw [IsEvent, hof.1, hof.2]

/-- The deployment of the event is no longer under way. -/
def Ended (tenant_id : ℕ) (event_id : String) (db : Db) : Prop :=
  ∃ d ∈ deployments_of tenant_id event_id db, d.status ∉ UNDER_WAY

theorem ended_step (h : Sound db) (hended : Ended tenant_id event_id db) :
    Ended tenant_id event_id (step db e) := by
  obtain ⟨d, hd, hstatus⟩ := hended
  obtain ⟨d', hd', -, htransition⟩ := follows_step (e := e) h hd
  exact ⟨d', hd', ended_stays _ (h.statuses d (mem_deployments_of.1 hd).1) _ htransition hstatus⟩

/-- The event has a deployment. -/
def Recorded (tenant_id : ℕ) (event_id : String) (db : Db) : Prop :=
  ∃ d, d ∈ deployments_of tenant_id event_id db

theorem recorded_step (h : Sound db) (hrecorded : Recorded tenant_id event_id db) :
    Recorded tenant_id event_id (step db e) := by
  obtain ⟨d, hd⟩ := hrecorded
  obtain ⟨d', hd', -⟩ := follows_step (e := e) h hd
  exact ⟨d', hd'⟩

/-- **A version row is written by the delivery that brings the deployment to `success`.** -/
theorem installs_cases (h : Sound db) (hinstalls : Installs tenant_id event_id db e v) :
    ∃ delivery own, e = .deliver delivery ∧ delivery.IsOf tenant_id event_id ∧
      Moves db delivery.tenant_id delivery.payload own (step db e) ∧
      delivery.payload.status = "success" := by
  obtain ⟨delivery, rfl, hof, hv, hnew⟩ := hinstalls
  rcases step_cases h.toKept (.deliver delivery) with
    ⟨-, hversions, -⟩ | ⟨delivery', own, hdeliver, hmoves⟩
  · rw [hversions] at hv
    exact absurd hv hnew
  · obtain rfl := Event.deliver.inj hdeliver
    obtain ⟨new, -, hmem⟩ := hmoves.versions
    exact ⟨delivery, own, rfl, hof, hmoves, (((hmem v).1 hv).resolve_left hnew).1⟩

theorem installs_one (h : Sound db) {v' : EnvironmentSubSystemVersion}
    (hinstalls : Installs tenant_id event_id db e v)
    (hinstalls' : Installs tenant_id event_id db e v') : v = v' := by
  obtain ⟨delivery, own, rfl, -, hmoves, -⟩ := installs_cases h hinstalls
  obtain ⟨_, -, -, hv, hnew⟩ := hinstalls
  obtain ⟨_, -, -, hv', hnew'⟩ := hinstalls'
  obtain ⟨new, -, hmem⟩ := hmoves.versions
  rw [(((hmem v).1 hv).resolve_left hnew).2, (((hmem v').1 hv').resolve_left hnew').2]

/-- Before a move to `success` the deployment is under way, if there is one. -/
theorem not_ended_of_success (h : Sound db) {db' : Db} (hof : delivery.IsOf tenant_id event_id)
    (hmoves : Moves db delivery.tenant_id delivery.payload own db')
    (hsuccess : delivery.payload.status = "success") : ¬ Ended tenant_id event_id db := by
  rintro ⟨d, hd, hended⟩
  obtain ⟨hmem, hevent⟩ := mem_deployments_of.1 hd
  obtain ⟨-, hne, htransition⟩ := hmoves.allowed d hmem ((of_event hof).2 hevent)
  rw [hsuccess] at hne htransition
  exact hended (success_from _ (h.statuses d hmem) htransition hne)

/-- After a move the deployment of the event is the one that was moved. -/
theorem mem_deployments_of_moves {db' : Db} (hof : delivery.IsOf tenant_id event_id)
    (hmoves : Moves db delivery.tenant_id delivery.payload own db') :
    d ∈ deployments_of tenant_id event_id db' ↔ d = own := by
  rw [mem_deployments_of, hmoves.deployments, ← of_event hof]
  constructor
  · rintro ⟨⟨-, hother⟩ | rfl, hevent⟩
    · exact absurd hevent hother
    · rfl
  · rintro rfl
    exact ⟨Or.inr rfl, hmoves.event⟩

theorem succeeded_of_moves {db' : Db} (hof : delivery.IsOf tenant_id event_id)
    (hmoves : Moves db delivery.tenant_id delivery.payload own db') :
    Succeeded tenant_id event_id db' ↔ delivery.payload.status = "success" := by
  rw [← hmoves.status]
  constructor
  · rintro ⟨d, hd, hstatus⟩
    rw [(mem_deployments_of_moves hof hmoves).1 hd] at hstatus
    exact hstatus
  · intro hstatus
    exact ⟨own, (mem_deployments_of_moves hof hmoves).2 rfl, hstatus⟩

/-- A deployment that succeeded has ended. -/
theorem Succeeded.ended (h : Succeeded tenant_id event_id db) : Ended tenant_id event_id db := by
  obtain ⟨d, hd, hstatus⟩ := h
  refine ⟨d, hd, ?_⟩
  rw [hstatus]
  decide

theorem installs_marks (h : Sound db) (hinstalls : Installs tenant_id event_id db e v) :
    ¬ Ended tenant_id event_id db ∧ Ended tenant_id event_id (step db e) := by
  obtain ⟨delivery, own, rfl, hof, hmoves, hsuccess⟩ := installs_cases h hinstalls
  exact ⟨not_ended_of_success h hof hmoves hsuccess,
    ((succeeded_of_moves hof hmoves).2 hsuccess).ended⟩

/-- **A row is written exactly where the deployment is brought to `success`.** -/
theorem installs_iff (h : Sound db) :
    (∃ v, Installs tenant_id event_id db e v) ↔ Succeeds tenant_id event_id db e () := by
  constructor
  · rintro ⟨v, hinstalls⟩
    obtain ⟨delivery, own, rfl, hof, hmoves, hsuccess⟩ := installs_cases h hinstalls
    exact ⟨delivery, rfl, hof,
      fun hsucceeded => not_ended_of_success h hof hmoves hsuccess hsucceeded.ended,
      (succeeded_of_moves hof hmoves).2 hsuccess⟩
  · rintro ⟨delivery, rfl, hof, hbefore, hafter⟩
    rcases step_cases h.toKept (.deliver delivery) with
      ⟨hdeployments, -⟩ | ⟨delivery', own, hdeliver, hmoves⟩
    · rw [Succeeded, deployments_of, hdeployments] at hafter
      exact absurd hafter hbefore
    · obtain rfl := Event.deliver.inj hdeliver
      obtain ⟨new, hnew, hmem⟩ := hmoves.versions
      have hsuccess := (succeeded_of_moves hof hmoves).1 hafter
      exact ⟨new, delivery, rfl, hof, (hmem new).2 (Or.inr ⟨hsuccess, rfl⟩), hnew⟩

/-- **A change request is made for the first delivery that is handled.** -/
theorem raises_cases (h : Sound db) {cr_id : ℕ} (hraises : Raises tenant_id event_id db e cr_id) :
    (¬ Recorded tenant_id event_id db ∧ Recorded tenant_id event_id (step db e)) ∧
      cr_id = db.statuses.change_requests.next := by
  obtain ⟨delivery, rfl, hof, ⟨cr, hcr, rfl⟩, hnew⟩ := hraises
  rcases step_cases h.toKept (.deliver delivery) with
    ⟨-, -, hrequests⟩ | ⟨delivery', own, hdeliver, hmoves⟩
  · rw [hrequests delivery rfl] at hcr
    exact absurd rfl (hnew cr hcr)
  · obtain rfl := Event.deliver.inj hdeliver
    rcases hmoves.change_requests cr hcr with ⟨cr₀, hcr₀, hid⟩ | ⟨hnone, hnext⟩
    · exact absurd hid (hnew cr₀ hcr₀)
    · refine ⟨⟨?_, own, (mem_deployments_of_moves hof hmoves).2 rfl⟩, hnext⟩
      rintro ⟨d, hd⟩
      obtain ⟨hmem, hevent⟩ := mem_deployments_of.1 hd
      exact hnone d hmem ((of_event hof).2 hevent)

end

/-! ## Whole runs -/

theorem installed_stays {db : Db} (h : Sound db) {e : Event}
    (hv : v ∈ db.versions) : v ∈ (step db e).versions := by
  rcases step_cases h.toKept e with ⟨-, hversions, -⟩ | ⟨delivery, own, -, hmoves⟩
  · rw [hversions]
    exact hv
  · obtain ⟨new, -, hmem⟩ := hmoves.versions
    exact (hmem v).2 (Or.inl hv)

/-- A delivery that is refused or repeats its status changes no row. -/
theorem idle_step {db : Db} (h : Sound db) (hidle : Idle db delivery) :
    SameRows db (step db (.deliver delivery)) := by
  rw [step]
  cases hhandle : handle db delivery with
  | error raised =>
    rw [rollback_error]
    exact ⟨rfl, rfl, rfl, rfl⟩
  | ok db' =>
    rw [commit_ok]
    have hwait := kept_wait h.toKept delivery.elapsed
    rcases moves_of_ok hwait hhandle with ⟨rfl, -⟩ | ⟨own, hmoves⟩
    · exact ⟨rfl, rfl, rfl, rfl⟩
    · rcases hidle with ⟨raised, hraised⟩ | ⟨d, hd, hstatus⟩
      · rw [hhandle] at hraised
        cases hraised
      · obtain ⟨hmem, hevent⟩ := mem_deployments_of.1 hd
        exact absurd hstatus (hmoves.allowed d hmem hevent).2.1

/-- **One event, however often it is delivered.** In every run of deliveries, of any events in
any order and with any other writes between them, the deliveries of one event of a tenant
make one deployment, one version row and one change request at most. -/
theorem delivered_once (rows : Statuses.Db) (clock : DateTime) (events : List Event)
    (tenant_id : ℕ) (event_id : String) :
    DeliveredOnce (Db.fresh rows clock) events tenant_id event_id := by
  have hfresh := sound_fresh rows clock
  have hstep : ∀ db e, Sound db → Sound (step db e) := fun _ e h => sound_step h e
  have hsound : ∀ es, Sound (Runs.run step (Db.fresh rows clock) es) :=
    fun es => Runs.run_inv hstep hfresh es
  have hnext : ∀ es e, Runs.run step (Db.fresh rows clock) (es ++ [e]) =
      step (Runs.run step (Db.fresh rows clock) es) e :=
    fun es e => Runs.run_append _ es [e]
  refine ⟨?_, ?_, ?_, ?_, ?_, ?_⟩
  · -- one deployment: two of one event would break the unique constraint
    refine Table.length_select_le_one fun d hd d' hd' hevent hevent' => ?_
    obtain ⟨htenant, hid⟩ := of_decide_eq_true hevent
    obtain ⟨htenant', hid'⟩ := of_decide_eq_true hevent'
    exact (hsound events).events d hd d' hd' ⟨htenant.trans htenant'.symm, hid.trans hid'.symm⟩
  · intro before e after _ d hd
    rw [hnext]
    exact follows_step (hsound before) hd
  · -- one version row: a deployment that has succeeded is no longer under way, and stays so
    intro before before' v v' hmakes hmakes'
    exact hmakes.unique hstep (fun _ _ _ h => installs_marks h) (fun _ _ h => ended_step h)
      (fun _ _ _ _ h => installs_one h) hfresh hmakes'
  · -- one change request: it is made with the deployment, which is never taken away
    intro before before' cr_id cr_id' hmakes hmakes'
    exact hmakes.unique hstep (fun _ _ _ h hraises => (raises_cases h hraises).1)
      (fun _ _ h => recorded_step h)
      (fun _ _ _ _ h hraises hraises' =>
        (raises_cases h hraises).2.trans (raises_cases h hraises').2.symm) hfresh hmakes'
  · constructor
    · rintro ⟨v, -, before, e, after, hsplit, hinstalls⟩
      exact ⟨before, e, after, hsplit, (installs_iff (hsound before)).1 ⟨v, hinstalls⟩⟩
    · rintro ⟨before, e, after, rfl, hsucceeds⟩
      obtain ⟨v, hinstalls⟩ := (installs_iff (hsound before)).2 hsucceeds
      refine ⟨v, ?_, before, e, after, rfl, hinstalls⟩
      obtain ⟨-, -, -, hv, -⟩ := hinstalls
      -- a version row is never taken back
      have hkeeps : ∀ db e, Sound db ∧ v ∈ db.versions →
          Sound (step db e) ∧ v ∈ (step db e).versions :=
        fun db e h => ⟨sound_step h.1 e, installed_stays h.1 h.2⟩
      rw [Runs.run_append, Runs.run_cons]
      exact (Runs.run_inv hkeeps ⟨sound_step (hsound before) e, hv⟩ after).2
  · intro before delivery after _ hidle
    rw [hnext]
    exact idle_step (hsound before) hidle

end EnvMgr.Deployments
