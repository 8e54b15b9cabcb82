/-
Deployments reported by the pipelines: `deployment_service.py`, `build_service.py`
and the change requests that an event makes for itself. Over these and the other
services, all requests as one step function.

An event that ends a deployment sets the status of its change request without asking
the template.
-/
import EnvMgr.Statuses.Service

namespace EnvMgr.Statuses

open Lifecycle (LifecycleTemplate scalar_one_or_none)

/-! ## Look-ups by name -/

def ALLOWED_STATUSES : List String := ["pending", "in_progress", "success", "failed", "rolled_back"]

def ALLOWED_TRANSITIONS : String → List String
  | "pending" => ["pending", "in_progress", "success", "failed"]
  | "in_progress" => ["in_progress", "success", "failed"]
  | "success" => ["success", "rolled_back"]
  | "failed" => ["failed", "rolled_back"]
  | "rolled_back" => ["rolled_back"]
  | _ => []

def _resolve_subsystem (db : Db) (tenant_id : ℕ) (system_slug subsystem_slug : String) :
    Except Raised ℕ := do
  let system ← scalar_one_or_none (db.reference.systems.filter fun s =>
    s.tenant_id = tenant_id ∧ s.name = system_slug ∧ s.deleted_at = none)
  let system ← get_or_raise system (http 400 s!"Unknown system_slug '{system_slug}'")
  let sub ← scalar_one_or_none (db.reference.subsystems.filter fun s =>
    s.tenant_id = tenant_id ∧ s.system_id = system.id ∧ s.name = subsystem_slug ∧
      s.deleted_at = none)
  let sub ← get_or_raise sub
    (http 400 s!"Unknown subsystem_slug '{subsystem_slug}' for system '{system_slug}'")
  .ok sub.id

def _resolve_environment (db : Db) (tenant_id : ℕ) (slug : String) : Except Raised ℕ := do
  let env ← scalar_one_or_none (db.bookings.estate.environments.select fun e =>
    e.tenant_id = tenant_id ∧ e.name = slug ∧ e.deleted_at = none)
  let env ← get_or_raise env (http 400 s!"Unknown environment_slug '{slug}'")
  .ok env.id

/-! ## Builds -/

/-- The foreign key of a `release_id` column. -/
def assert_release (db : Db) (release_id : Option ℕ) : Except Raised Unit :=
  raise_if (∃ id ∈ release_id.toList, ¬ ∃ r ∈ db.releases.rows, r.id = id) .IntegrityError

def BuildPayload.row (data : BuildPayload) (tenant_id subsystem_id : ℕ) (release_id : Option ℕ)
    (id : ℕ) : Build :=
  ⟨id, tenant_id, subsystem_id, release_id, data.git_sha, data.build_number, none⟩

/-- The build, and the builds with it in them. -/
def upsert_build (db : Db) (tenant_id subsystem_id : ℕ) (data : BuildPayload)
    (release_id : Option ℕ) : Except Raised (Build × Table Build Build.id) := do
  Bookings.validate_custom_fields db.bookings tenant_id "build" (some data.custom_fields) none
  let key := fun b : Build =>
    b.tenant_id = tenant_id ∧ b.subsystem_id = subsystem_id ∧ b.git_sha = data.git_sha ∧
      b.build_number = data.build_number
  assert_release db release_id
  match db.builds.select_one fun b => key b ∧ b.deleted_at = none with
  | none => do
    -- `uq_build_tenant_sub_sha_num` knows nothing of deleted rows
    raise_if (∃ b ∈ db.builds.rows, key b) .IntegrityError
    .ok (data.row tenant_id subsystem_id release_id db.builds.next,
      db.builds.insert ⟨data.row tenant_id subsystem_id release_id, fun _ => rfl⟩)
  | some existing =>
    let write := fun b : Build => { b with release_id := release_id.or b.release_id }
    .ok (write existing, db.builds.update (fun b => b.id = existing.id) ⟨write, fun _ => rfl⟩)

/-! ## Change requests that events make -/

def code_deployment_row (tpl : LifecycleTemplate) (tenant_id raised_by : ℕ)
    (title description : String) (now : DateTime) (id : ℕ) : ChangeRequest where
  id := id
  tenant_id := tenant_id
  title := title
  description := some description
  change_type := "code_deployment"
  status := "created"
  lifecycle_id := tpl.id
  subsystem_id := none
  release_id := none
  has_outage := false
  outage_start := none
  outage_end := none
  scheduled_start := now
  scheduled_end := now
  custom_fields := none
  raised_by := raised_by
  deleted_at := none

def code_deployment_template (db : Db) (tenant_id : ℕ) : Except Raised LifecycleTemplate := do
  let tpl ← scalar_one_or_none (db.templates.select fun t =>
    t.tenant_id = tenant_id ∧ t.entity_type = ENTITY_TYPE ∧ t.name = "Code Deployment" ∧
      t.deleted_at = none)
  get_or_raise tpl .RuntimeError

/-- The change request's id, and the change requests with it in them. -/
def create_code_deployment (db : Db) (tenant_id raised_by : ℕ) (title description : String)
    (now : DateTime) : Except Raised (ℕ × Table ChangeRequest ChangeRequest.id) := do
  let tpl ← code_deployment_template db tenant_id
  .ok (db.change_requests.next, db.change_requests.insert
    ⟨code_deployment_row tpl tenant_id raised_by title description now, fun _ => rfl⟩)

/-! ## Events -/

def existing_deployment (db : Db) (tenant_id : ℕ) (payload : DeploymentWebhookPayload) :
    Option Deployment :=
  db.deployments.select_one fun d => d.tenant_id = tenant_id ∧ d.event_id = payload.event_id

/-- The change request of the deployment: the one it has, the one the event names, or a
new one. -/
def resolve_change_request (db : Db) (tenant_id : ℕ) (payload : DeploymentWebhookPayload)
    (raised_by : ℕ) (existing : Option Deployment) (now : DateTime) :
    Except Raised (ℕ × Table ChangeRequest ChangeRequest.id) :=
  match existing with
  | some deployment => .ok (deployment.change_request_id, db.change_requests)
  | none =>
    match payload.change_request_id with
    | some cr_id => do
      let cr ← get_or_raise
        (db.change_requests.select_one fun c =>
          c.id = cr_id ∧ c.tenant_id = tenant_id ∧ c.deleted_at = none)
        (http 400 s!"change_request_id {cr_id} not found")
      .ok (cr.id, db.change_requests)
    | none =>
      let sha := String.ofList (payload.build.git_sha.toList.take 8)
      create_code_deployment db tenant_id raised_by
        s!"Deploy {sha} → {payload.environment_slug}"
        s!"Auto-created from webhook event {payload.event_id}" now

/-- The status that an event gives to the change request, if it ends the deployment. -/
def target_state (payload : DeploymentWebhookPayload) : Option String :=
  if payload.status = "success" then some "deployed"
  else if payload.status = "failed" then some "failed"
  else none

/-- The transition of the linked change request, which bypasses the lifecycle. -/
def sync_status (change_requests : Table ChangeRequest ChangeRequest.id)
    (change_request_id tenant_id : ℕ) (target : Option String) :
    Except Raised (Table ChangeRequest ChangeRequest.id) :=
  match target with
  | none => .ok change_requests
  | some target => do
    let cr ← get_or_raise
      (change_requests.select_one fun c => c.id = change_request_id ∧ c.tenant_id = tenant_id)
      .NoResultFound
    if cr.status = target then .ok change_requests
    else .ok (change_requests.update (fun c => c.id = cr.id) (set_cr_status target))

def DeploymentWebhookPayload.completed_at (payload : DeploymentWebhookPayload) : Option DateTime :=
  if payload.status ∈ ["success", "failed"] then some payload.deployed_at else none

def DeploymentWebhookPayload.row (payload : DeploymentWebhookPayload) (build : Build)
    (tenant_id environment_id change_request_id id : ℕ) : Deployment where
  id := id
  tenant_id := tenant_id
  build_id := build.id
  environment_id := environment_id
  release_id := payload.release_id.or build.release_id
  change_request_id := change_request_id
  event_id := payload.event_id
  deployer_name := payload.deployer_name
  deployed_at := payload.deployed_at
  completed_at := payload.completed_at
  status := payload.status
  custom_fields := payload.deployment_custom_fields

/-- The deployments with the event in them. -/
def record_deployment (db : Db) (payload : DeploymentWebhookPayload) (build : Build)
    (existing : Option Deployment) (tenant_id environment_id change_request_id : ℕ) :
    Table Deployment Deployment.id :=
  match existing with
  | none => db.deployments.insert
    ⟨payload.row build tenant_id environment_id change_request_id, fun _ => rfl⟩
  | some deployment => db.deployments.update (fun d => d.id = deployment.id)
    ⟨fun d => { d with
      status := payload.status
      completed_at := payload.completed_at.or d.completed_at }, fun _ => rfl⟩

def ingest (db : Db) (tenant_id : ℕ) (payload : DeploymentWebhookPayload)
    (raised_by_user_id : ℕ) (now : DateTime) : Except Raised Db := do
  raise_if (payload.status ∉ ALLOWED_STATUSES) (http 400 s!"Unknown status '{payload.status}'")
  let existing := existing_deployment db tenant_id payload
  if existing.map Deployment.status = some payload.status then .ok db
  else do
    for_each existing.toList fun deployment =>
      raise_if (payload.status ∉ ALLOWED_TRANSITIONS deployment.status)
        (http 409 (s!"Deployment status {deployment.status} cannot transition to "
          ++ payload.status))
    let subsystem_id ← _resolve_subsystem db tenant_id payload.system_slug payload.subsystem_slug
    let environment_id ← _resolve_environment db tenant_id payload.environment_slug
    Bookings.validate_custom_fields db.bookings tenant_id "deployment"
      (some payload.deployment_custom_fields) none
    let (build, builds) ← upsert_build db tenant_id subsystem_id payload.build payload.release_id
    let (change_request_id, change_requests) ← resolve_change_request db tenant_id payload
      raised_by_user_id existing now
    let synced ← sync_status change_requests change_request_id tenant_id (target_state payload)
    .ok { db with
      builds := builds
      deployments := record_deployment db payload build existing tenant_id environment_id
        change_request_id
      change_requests := synced }

/-! ## The routes -/

/-- Not a transition, which is decided here and not by the booking services. -/
def is_write : Bookings.Event → Bool
  | .transition _ _ => false
  | _ => true

/-- A request, with the clock it reads. `reference` is any write of another service to
the rows that are only read here. -/
inductive Request
  | bookings (e : {e : Bookings.Event // is_write e = true})
  | templates (request : Lifecycle.Request)
  | create_booking_type (current_user : CurrentUser) (data : BookingTypeCreate)
  | update_booking_type (current_user : CurrentUser) (type_id : ℕ) (data : BookingTypeUpdate)
  | delete_booking_type (current_user : CurrentUser) (type_id : ℕ) (now : DateTime)
  | transition_booking (current_user : CurrentUser) (booking_id : ℕ) (to_state : String)
      (now : DateTime)
  | transition_group (current_user : CurrentUser) (request_id group_id : ℕ) (to_state : String)
      (now : DateTime)
  | create_release (current_user : CurrentUser) (data : ReleaseCreate)
  | transition_release (current_user : CurrentUser) (release_id : ℕ) (to_state : String)
      (now : DateTime)
  | delete_release (current_user : CurrentUser) (release_id : ℕ) (now : DateTime)
  | create_change_request (current_user : CurrentUser) (data : ChangeRequestCreate)
  | transition_change_request (current_user : CurrentUser) (cr_id : ℕ) (to_state : String)
  | delete_change_request (current_user : CurrentUser) (cr_id : ℕ) (now : DateTime)
  | ingest_deployment (tenant_id created_by : ℕ) (payload : DeploymentWebhookPayload)
      (now : DateTime)
  | reference (rows : Reference)

def handle (ext : Bookings.External) (db : Db) : Request → Except Raised Db
  | .bookings e => (Bookings.handle ext db.seen e.val).map fun b => { db with bookings := b }
  | .templates request =>
    (Lifecycle.handle db.lifecycle request).map fun l => { db with templates := l.templates }
  | .create_booking_type user data => do
    Lifecycle.require_tenant_admin user
    create_type db data user.active_tenant_id
  | .update_booking_type user type_id data => do
    Lifecycle.require_tenant_admin user
    update_type db type_id data user.active_tenant_id
  | .delete_booking_type user type_id now => do
    Lifecycle.require_tenant_admin user
    delete_type db type_id user.active_tenant_id now
  | .transition_booking user booking_id to_state now =>
    transition_state db booking_id to_state user now
  | .transition_group user request_id group_id to_state now =>
    transition_group db request_id group_id to_state user now
  | .create_release user data => create_release db data user.active_tenant_id user.id
  | .transition_release user release_id to_state now =>
    transition_release db release_id to_state user.active_tenant_id user.role now
  | .delete_release user release_id now => delete_release db release_id user.active_tenant_id now
  | .create_change_request user data => create_change_request db data user user.active_tenant_id
  | .transition_change_request user cr_id to_state =>
    transition_status db cr_id to_state user user.active_tenant_id
  | .delete_change_request user cr_id now =>
    soft_delete_change_request db cr_id user.active_tenant_id now
  | .ingest_deployment tenant_id created_by payload now =>
    ingest db tenant_id payload created_by now
  | .reference rows => .ok { db with reference := rows }

def step (ext : Bookings.External) (db : Db) (request : Request) : Db :=
  commit_or_rollback db (handle ext db request)

end EnvMgr.Statuses
