/-
Deployments and versions: what `deployment_service.ingest` writes of both, and what
`version_service.list_versions` reads.

A delivery that brings a deployment to `success` adds a version row. The row is made from
the delivery, with the environment, the subsystem and the build that it names, whether the
deployment is new or was recorded by an earlier delivery of the same event.
-/
import EnvMgr.Statuses.Deployments

namespace EnvMgr.Deployments

open Statuses (Build BuildPayload Deployment DeploymentWebhookPayload)

/-! ## Tables -/

structure EnvironmentSubSystemVersion where
  id : ℕ
  tenant_id : ℕ
  environment_id : ℕ
  subsystem_id : ℕ
  build_identifier : String
  build_fk_id : Option ℕ
  version_label : String
  installed_at : DateTime
  deriving DecidableEq

/-- `clock` is the instant of the last delivery. -/
structure Db where
  statuses : Statuses.Db
  versions : Table EnvironmentSubSystemVersion EnvironmentSubSystemVersion.id
  clock : DateTime

/-- Nothing was built or deployed yet. -/
def Db.fresh (rows : Statuses.Db) (clock : DateTime) : Db where
  statuses := { rows with builds := Table.empty, deployments := Table.empty }
  versions := Table.empty
  clock := clock

/-! ## Deliveries -/

/-- `git_sha[:n]`. -/
def prefix_of (n : ℕ) (git_sha : String) : String := String.ofList (git_sha.toList.take n)

def version_label (data : BuildPayload) : String :=
  if data.build_number = "" then prefix_of 8 data.git_sha else data.build_number

def version_row (payload : DeploymentWebhookPayload) (build : Build)
    (tenant_id environment_id subsystem_id : ℕ) (now : DateTime) (id : ℕ) :
    EnvironmentSubSystemVersion where
  id := id
  tenant_id := tenant_id
  environment_id := environment_id
  subsystem_id := subsystem_id
  build_identifier := prefix_of 12 payload.build.git_sha
  build_fk_id := some build.id
  version_label := version_label payload.build
  installed_at := now

/-- The versions with what the delivery installed in them. -/
def record_version (db : Db) (payload : DeploymentWebhookPayload) (build : Build)
    (tenant_id environment_id subsystem_id : ℕ) (now : DateTime) :
    Table EnvironmentSubSystemVersion EnvironmentSubSystemVersion.id :=
  if payload.status = "success" then
    db.versions.insert
      ⟨version_row payload build tenant_id environment_id subsystem_id now, fun _ => rfl⟩
  else db.versions

/-- `deployment_service.ingest`. -/
def ingest (db : Db) (tenant_id : ℕ) (payload : DeploymentWebhookPayload)
    (raised_by_user_id : ℕ) (now : DateTime) : Except Raised Db := do
  raise_if (payload.status ∉ Statuses.ALLOWED_STATUSES)
    (http 400 s!"Unknown status '{payload.status}'")
  let existing := Statuses.existing_deployment db.statuses tenant_id payload
  if existing.map Deployment.status = some payload.status then .ok db
  else do
    for_each existing.toList fun deployment =>
      raise_if (payload.status ∉ Statuses.ALLOWED_TRANSITIONS deployment.status)
        (http 409 (s!"Deployment status {deployment.status} cannot transition to "
          ++ payload.status))
    let subsystem_id ← Statuses._resolve_subsystem db.statuses tenant_id payload.system_slug
      payload.subsystem_slug
    let environment_id ← Statuses._resolve_environment db.statuses tenant_id
      payload.environment_slug
    Bookings.validate_custom_fields db.statuses.bookings tenant_id "deployment"
      (some payload.deployment_custom_fields) none
    let (build, builds) ← Statuses.upsert_build db.statuses tenant_id subsystem_id payload.build
      payload.release_id
    let (change_request_id, change_requests) ← Statuses.resolve_change_request db.statuses
      tenant_id payload raised_by_user_id existing now
    let synced ← Statuses.sync_status change_requests change_request_id tenant_id
      (Statuses.target_state payload)
    .ok { db with
      statuses := { db.statuses with
        builds := builds
        deployments := Statuses.record_deployment db.statuses payload build existing tenant_id
          environment_id change_request_id
        change_requests := synced }
      versions := record_version db payload build tenant_id environment_id subsystem_id now }

structure Delivery where
  tenant_id : ℕ
  created_by : ℕ
  payload : DeploymentWebhookPayload
  /-- The time since the delivery before. -/
  elapsed : ℕ

/-- A delivery, or any write of another service to the rows that a delivery does not make. -/
inductive Event
  | deliver (delivery : Delivery)
  | elsewhere (rows : Statuses.Db)

/-- The time passes before the delivery is handled. -/
def Db.wait (db : Db) (elapsed : ℕ) : Db := { db with clock := db.clock + elapsed }

def handle (db : Db) (delivery : Delivery) : Except Raised Db :=
  ingest (db.wait delivery.elapsed) delivery.tenant_id delivery.payload delivery.created_by
    (db.clock + delivery.elapsed)

def step (db : Db) : Event → Db
  | .deliver delivery => commit_or_rollback (db.wait delivery.elapsed) (handle db delivery)
  | .elsewhere rows => { db with
      statuses := { rows with
        builds := db.statuses.builds
        deployments := db.statuses.deployments } }

/-- **Without its versions, a delivery is the one of the status model.** -/
theorem ingest_statuses (db : Db) (tenant_id : ℕ) (payload : DeploymentWebhookPayload)
    (raised_by_user_id : ℕ) (now : DateTime) :
    (ingest db tenant_id payload raised_by_user_id now).map Db.statuses =
      Statuses.ingest db.statuses tenant_id payload raised_by_user_id now := by
  simp only [ingest, Statuses.ingest, map_bind, apply_ite (Except.map Db.statuses), map_ok]

/-! ## The current versions -/

/-- `order_by=(installed_at.desc(), id.desc())`. -/
def EnvironmentSubSystemVersion.rank (v : EnvironmentSubSystemVersion) : DateTime ×ₗ ℕ :=
  toLex (v.installed_at, v.id)

/-- `row_number()` over the partition of the subsystem. -/
def row_number (rows : List EnvironmentSubSystemVersion) (v : EnvironmentSubSystemVersion) : ℕ :=
  rows.countP (fun w => w.subsystem_id = v.subsystem_id ∧ v.rank < w.rank) + 1

/-- The version rows of an environment. -/
def history (db : Db) (env_id tenant_id : ℕ) : List EnvironmentSubSystemVersion :=
  db.versions.select fun v => v.environment_id = env_id ∧ v.tenant_id = tenant_id

/-- Those numbered one. -/
def current_versions (db : Db) (env_id tenant_id : ℕ) : List EnvironmentSubSystemVersion :=
  let base := history db env_id tenant_id
  order_by (fun v => toLex (v.subsystem_id, v.id)) (base.filter fun v => row_number base v = 1)

structure Page where
  limit : ℕ
  offset : ℕ

/-- `fetch_page`: the rows of the page, and how many there are in all. -/
def fetch_page {α : Type} (rows : List α) (page : Option Page) : List α × ℕ :=
  match page with
  | none => (rows, rows.length)
  | some page => ((rows.drop page.offset).take page.limit, rows.length)

def get_environment (db : Db) (env_id tenant_id : ℕ) : Except Raised Environment :=
  get_or_raise
    (db.statuses.bookings.estate.environments.select_one fun e =>
      e.id = env_id ∧ e.tenant_id = tenant_id ∧ e.deleted_at = none)
    (http 404 "Environment not found")

def list_versions (db : Db) (env_id tenant_id : ℕ) (current_only : Bool) (page : Option Page) :
    Except Raised (List EnvironmentSubSystemVersion × ℕ) := do
  let _ ← get_environment db env_id tenant_id
  if current_only then .ok (fetch_page (current_versions db env_id tenant_id) page)
  else
    .ok (fetch_page
      (order_by (fun v => toLex (v.subsystem_id, toLex (-v.installed_at, v.id)))
        (history db env_id tenant_id)) page)

/-- A current version is one that no other of its subsystem outranks. -/
theorem mem_current_versions {db : Db} {env_id tenant_id : ℕ} {v : EnvironmentSubSystemVersion} :
    v ∈ current_versions db env_id tenant_id ↔
      v ∈ history db env_id tenant_id ∧
        ∀ w ∈ history db env_id tenant_id, w.subsystem_id = v.subsystem_id → w.rank ≤ v.rank := by
  rw [current_versions, mem_order_by, List.mem_filter, decide_eq_true_eq, row_number]
  refine and_congr_right fun _ => ?_
  rw [Nat.add_eq_right, List.countP_eq_zero]
  simp only [decide_eq_true_eq, not_and, not_lt]

end EnvMgr.Deployments
