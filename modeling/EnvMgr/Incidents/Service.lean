/-
Incidents: `services/incident_service.py`, and which of their rows and of the
releases the `open` filter of the two lists shows.

An incident runs on a lifecycle template as a release does, and the state it stands
in is a text. What is over and what is not is asked of the template row by row
(`terminal_status_clause`). The stamp `resolved_at` is set and cleared by the flag
`is_resolved` of the states that a transition enters and leaves.
-/
import EnvMgr.Lifecycle.Saving
import EnvMgr.Statuses.Deployments

namespace EnvMgr.Incidents

open Bookings (Json)
open Lifecycle (FieldValue LifecycleTemplate RecordValues StateEntry validate_transition)
open Statuses (custom_values)

/-! ## Tables -/

structure Incident where
  id : ℕ
  tenant_id : ℕ
  title : String
  description : Option String
  severity : String
  lifecycle_template_id : Option ℕ
  status : String
  detected_at : DateTime
  resolved_at : Option DateTime
  environment_id : Option ℕ
  deployment_id : Option ℕ
  release_id : Option ℕ
  fix_release_id : Option ℕ
  system_id : Option ℕ
  subsystem_id : Option ℕ
  source : String
  external_ref : Option String
  custom_fields : Option (Dict Json)
  deleted_at : Option DateTime

structure IncidentStatusHistory where
  id : ℕ
  tenant_id : ℕ
  incident_id : ℕ
  from_state : Option String
  to_state : String
  changed_by : ℕ
  changed_at : DateTime
  deriving DecidableEq

structure Db where
  statuses : Statuses.Db
  incidents : Table Incident Incident.id
  history : Table IncidentStatusHistory IncidentStatusHistory.id

/-- A database nobody has reported an incident in. -/
def Db.opened (statuses : Statuses.Db) : Db := ⟨statuses, Table.empty, Table.empty⟩

/-! ## Requests -/

/-- The schema's own validator has run: the severity is one of `SEVERITIES`. -/
structure IncidentCreate where
  title : String
  description : Option String
  severity : String
  detected_at : Option DateTime
  environment_id : Option ℕ
  deployment_id : Option ℕ
  release_id : Option ℕ
  fix_release_id : Option ℕ
  system_id : Option ℕ
  subsystem_id : Option ℕ
  source : String
  external_ref : Option String
  lifecycle_template_id : Option ℕ
  custom_fields : Option (Dict Json)

structure IncidentUpdate where
  title : Sent String
  description : Sent String
  severity : Sent String
  detected_at : Sent DateTime
  environment_id : Sent ℕ
  deployment_id : Sent ℕ
  release_id : Sent ℕ
  fix_release_id : Sent ℕ
  system_id : Sent ℕ
  subsystem_id : Sent ℕ
  external_ref : Sent String
  custom_fields : Sent (Dict Json)

/-! ## References -/

/-- The keys of `_FK_MODELS`. -/
inductive FkField
  | environment_id
  | deployment_id
  | release_id
  | fix_release_id
  | system_id
  | subsystem_id
  deriving DecidableEq

def FkField.name : FkField → String
  | environment_id => "environment_id"
  | deployment_id => "deployment_id"
  | release_id => "release_id"
  | fix_release_id => "fix_release_id"
  | system_id => "system_id"
  | subsystem_id => "subsystem_id"

def _FK_MODELS : List FkField :=
  [.environment_id, .deployment_id, .release_id, .fix_release_id, .system_id, .subsystem_id]

/-- The tenant and the deletion of the row a field points at. No service deletes a
deployment. -/
def fk_row (db : Statuses.Db) (value : ℕ) : FkField → Option (ℕ × Option DateTime)
  | .environment_id =>
    (db.bookings.estate.environments.select_one fun e => e.id = value).map fun e =>
      (e.tenant_id, e.deleted_at)
  | .deployment_id =>
    (db.deployments.select_one fun d => d.id = value).map fun d => (d.tenant_id, none)
  | .release_id | .fix_release_id =>
    (db.releases.select_one fun r => r.id = value).map fun r => (r.tenant_id, r.deleted_at)
  | .system_id =>
    (db.reference.systems.find? fun s => s.id = value).map fun s => (s.tenant_id, s.deleted_at)
  | .subsystem_id =>
    (db.reference.subsystems.find? fun s => s.id = value).map fun s => (s.tenant_id, s.deleted_at)

def _validate_fk_tenant (db : Statuses.Db) (field : FkField) (value : Option ℕ) (tenant_id : ℕ) :
    Except Raised Unit :=
  match value with
  | none => .ok ()
  | some value =>
    raise_if (fk_row db value field ≠ some (tenant_id, none))
      (http 422 s!"{field.name} does not reference a valid record for this tenant")

def IncidentCreate.fk (data : IncidentCreate) : FkField → Option ℕ
  | .environment_id => data.environment_id
  | .deployment_id => data.deployment_id
  | .release_id => data.release_id
  | .fix_release_id => data.fix_release_id
  | .system_id => data.system_id
  | .subsystem_id => data.subsystem_id

def IncidentUpdate.fk (data : IncidentUpdate) : FkField → Sent ℕ
  | .environment_id => data.environment_id
  | .deployment_id => data.deployment_id
  | .release_id => data.release_id
  | .fix_release_id => data.fix_release_id
  | .system_id => data.system_id
  | .subsystem_id => data.subsystem_id

/-! ## Templates -/

def _resolve_template (db : Statuses.Db) (template_id : Option ℕ) (tenant_id : ℕ) :
    Except Raised LifecycleTemplate :=
  match template_id with
  | some template_id =>
    get_or_raise
      (db.templates.select_one fun t =>
        t.tenant_id = tenant_id ∧ t.entity_type = "incident" ∧ t.deleted_at = none ∧
          t.id = template_id)
      (http 422 "lifecycle_template_id must be an active incident template for this tenant")
  | none =>
    get_or_raise
      (db.templates.select fun t =>
        t.tenant_id = tenant_id ∧ t.entity_type = "incident" ∧ t.deleted_at = none ∧
          t.is_default = true).head?
      (http 422 "No default incident lifecycle template. Seed defaults for this tenant.")

def _initial_state (definition : Lifecycle.Definition) : Except Raised String := do
  let state ← get_or_raise (definition.states.find? fun s => s.flag "is_initial")
    (http 500 "Incident lifecycle template has no initial state")
  .ok state.key

/-! ## The service -/

def IncidentCreate.row (data : IncidentCreate) (tpl : LifecycleTemplate) (initial : String)
    (tenant_id : ℕ) (now : DateTime) (id : ℕ) : Incident where
  id := id
  tenant_id := tenant_id
  title := data.title
  description := data.description
  severity := data.severity
  lifecycle_template_id := some tpl.id
  status := initial
  detected_at := data.detected_at.getD now
  resolved_at := none
  environment_id := data.environment_id
  deployment_id := data.deployment_id
  release_id := data.release_id
  fix_release_id := data.fix_release_id
  system_id := data.system_id
  subsystem_id := data.subsystem_id
  source := data.source
  external_ref := data.external_ref
  custom_fields := data.custom_fields
  deleted_at := none

def entry (tenant_id incident_id : ℕ) (from_state : Option String) (to_state : String)
    (user_id : ℕ) (now : DateTime) : Table.New IncidentStatusHistory.id where
  row id := ⟨id, tenant_id, incident_id, from_state, to_state, user_id, now⟩
  key_row _ := rfl

def create_incident (db : Db) (data : IncidentCreate) (tenant_id user_id : ℕ) (now : DateTime) :
    Except Raised Db := do
  for_each _FK_MODELS fun field => _validate_fk_tenant db.statuses field (data.fk field) tenant_id
  let tpl ← _resolve_template db.statuses data.lifecycle_template_id tenant_id
  let initial ← _initial_state tpl.definition
  Bookings.validate_custom_fields db.statuses.bookings tenant_id "incident" data.custom_fields none
  .ok { db with
    incidents := db.incidents.insert ⟨data.row tpl initial tenant_id now, fun _ => rfl⟩
    history := db.history.insert
      (entry tenant_id db.incidents.next none initial user_id now) }

def get_incident (db : Db) (incident_id tenant_id : ℕ) : Except Raised Incident :=
  get_or_raise
    (db.incidents.select_one fun i =>
      i.id = incident_id ∧ i.tenant_id = tenant_id ∧ i.deleted_at = none)
    (http 404 "Incident not found")

/-- What is sent is set, field by field. -/
def IncidentUpdate.write (data : IncidentUpdate) (i : Incident) : Incident :=
  { i with
    title := data.title.set_required i.title
    description := data.description.set_nullable i.description
    severity := data.severity.set_required i.severity
    detected_at := data.detected_at.set_required i.detected_at
    environment_id := data.environment_id.set_nullable i.environment_id
    deployment_id := data.deployment_id.set_nullable i.deployment_id
    release_id := data.release_id.set_nullable i.release_id
    fix_release_id := data.fix_release_id.set_nullable i.fix_release_id
    system_id := data.system_id.set_nullable i.system_id
    subsystem_id := data.subsystem_id.set_nullable i.subsystem_id
    external_ref := data.external_ref.set_nullable i.external_ref
    custom_fields := data.custom_fields.set_nullable i.custom_fields }

def update_incident (db : Db) (incident_id : ℕ) (data : IncidentUpdate) (tenant_id : ℕ) :
    Except Raised Db := do
  let inc ← get_incident db incident_id tenant_id
  for_each _FK_MODELS fun field =>
    _validate_fk_tenant db.statuses field ((data.fk field).set_nullable none) tenant_id
  if data.custom_fields.mentioned then
    Bookings.validate_custom_fields db.statuses.bookings tenant_id "incident"
      (data.custom_fields.set_nullable none) none
  -- these three columns take no null
  raise_if (data.title.get "" = none ∨ data.severity.get "" = none ∨ data.detected_at.get 0 = none)
    .IntegrityError
  .ok { db with
    incidents := db.incidents.update (fun i => i.id = inc.id) ⟨data.write, fun _ => rfl⟩ }

def delete_incident (db : Db) (incident_id tenant_id : ℕ) (now : DateTime) : Except Raised Db := do
  let inc ← get_incident db incident_id tenant_id
  .ok { db with
    incidents := db.incidents.update (fun i => i.id = inc.id)
      ⟨fun i => { i with deleted_at := some now }, fun _ => rfl⟩ }

def Incident.record_values (i : Incident) : RecordValues where
  fields :=
    { items :=
        [("title", .text i.title),
          ("description", Statuses.FieldValue.of_text i.description),
          ("severity", .text i.severity)]
      keys_nodup := by simp }
  custom_fields := custom_values i.custom_fields

/-- The keys of the states with the flag. -/
def keys_with (definition : Lifecycle.Definition) (flag : String) : List String :=
  (definition.states.filter fun s => s.flag flag).map StateEntry.key

/-- What a transition writes. -/
def set_status (resolved_keys : List String) (to_state : String) (now : DateTime) (i : Incident) :
    Incident :=
  { i with
    status := to_state
    resolved_at :=
      if to_state ∈ resolved_keys then some now
      else if i.status ∈ resolved_keys then none
      else i.resolved_at }

def transition (db : Db) (incident_id : ℕ) (to_state : String) (tenant_id user_id : ℕ)
    (user_role : String) (now : DateTime) : Except Raised Db := do
  let inc ← get_incident db incident_id tenant_id
  let tpl ← _resolve_template db.statuses inc.lifecycle_template_id tenant_id
  let (ok, reason) ← validate_transition tpl.definition inc.status to_state user_role
    inc.record_values
  raise_if (ok = false) (http 422 (reason.getD ""))
  let resolved_keys := keys_with tpl.definition "is_resolved"
  .ok { db with
    incidents := db.incidents.update (fun i => i.id = inc.id)
      ⟨set_status resolved_keys to_state now, fun _ => rfl⟩
    history := db.history.insert
      (entry tenant_id inc.id (some inc.status) to_state user_id now) }

/-! ## Open and closed -/

/-- `lifecycle_service.list_templates`. -/
def list_templates (templates : Table LifecycleTemplate LifecycleTemplate.id) (tenant_id : ℕ)
    (entity_type : String) : List LifecycleTemplate :=
  templates.select fun t =>
    t.tenant_id = tenant_id ∧ t.deleted_at = none ∧ t.entity_type = entity_type

/-- `lifecycle_service.terminal_status_clause`, on the template and the status of a row.
One branch for each template of the tenant, and one for the rows without a template. -/
def terminal_status_clause (templates : Table LifecycleTemplate LifecycleTemplate.id)
    (tenant_id : ℕ) (entity_type : String) (template_id : Option ℕ) (status : String)
    (terminal : Bool) : Bool :=
  let templates := list_templates templates tenant_id entity_type
  let branch := fun t : LifecycleTemplate =>
    let is_terminal_status := decide (status ∈ keys_with t.definition "is_terminal")
    if terminal then is_terminal_status else !is_terminal_status
  templates.any (fun t => template_id == some t.id && branch t)
    || (templates.find? fun t => t.is_default).any fun t => template_id == none && branch t

/-- The rows of `list_incidents` under the filter `open`. -/
def list_incidents (db : Db) (tenant_id : ℕ) (open_ : Bool) : List Incident :=
  db.incidents.select fun i =>
    i.tenant_id = tenant_id ∧ i.deleted_at = none ∧
      terminal_status_clause db.statuses.templates tenant_id "incident" i.lifecycle_template_id
        i.status (!open_) = true

/-- The rows of `release_service.list_releases` under the filter `open`. -/
def list_releases (db : Db) (tenant_id : ℕ) (open_ : Bool) : List Statuses.Release :=
  db.statuses.releases.select fun r =>
    r.tenant_id = tenant_id ∧ r.deleted_at = none ∧
      terminal_status_clause db.statuses.templates tenant_id "release"
        (some r.lifecycle_template_id) r.status (!open_) = true

/-! ## The routes -/

inductive Request
  | statuses (request : Statuses.Request)
  | create_incident (current_user : CurrentUser) (data : IncidentCreate) (now : DateTime)
  | update_incident (current_user : CurrentUser) (incident_id : ℕ) (data : IncidentUpdate)
  | transition_incident (current_user : CurrentUser) (incident_id : ℕ) (to_state : String)
      (now : DateTime)
  | delete_incident (current_user : CurrentUser) (incident_id : ℕ) (now : DateTime)

def handle (ext : Bookings.External) (db : Db) : Request → Except Raised Db
  | .statuses request =>
    (Statuses.handle ext db.statuses request).map fun s => { db with statuses := s }
  | .create_incident user data now => create_incident db data user.active_tenant_id user.id now
  | .update_incident user incident_id data =>
    update_incident db incident_id data user.active_tenant_id
  | .transition_incident user incident_id to_state now =>
    transition db incident_id to_state user.active_tenant_id user.id user.role now
  | .delete_incident user incident_id now =>
    delete_incident db incident_id user.active_tenant_id now

def step (ext : Bookings.External) (db : Db) (request : Request) : Db :=
  commit_or_rollback db (handle ext db request)

namespace Sample

/-- A tenant with its seeded incident lifecycle and nothing else. -/
def db : Db :=
  Db.opened (Statuses.Db.seeded Lifecycle.Seeded.db.templates Table.empty
    Bookings.Sample.environments Bookings.Sample.reference ⟨[], [], [], [], []⟩)

def report : IncidentCreate :=
  ⟨"Checkout is down", none, "critical", none, none, none, none, none, none, none, "manual", none,
    none, none⟩

end Sample

/-- The request is answered. -/
def Accepted (ext : Bookings.External) (db : Db) (request : Request) : Prop :=
  ∃ db', handle ext db request = .ok db'

end EnvMgr.Incidents
