/-
Planned outages, as two services read them: the can-deploy gate
(`preflight_service.evaluate`) and the health overview (`environment_health_service.py`).
Beside them the schedule of an environment, which also finds the change requests that
reach it through a host.

All three read the same change requests. Each has its own conditions on the status, on the
bounds of the window and on what the request is scoped to.
-/
import EnvMgr.Deployments.Model

namespace EnvMgr.Outages

open Bookings (Booking BookingRequest)
open Deployments (Page fetch_page)
open Statuses (Build ChangeRequest Deployment SubSystem)

/-! ## Tables -/

structure ChangeRequestEnvironment where
  change_request_id : ℕ
  environment_id : ℕ
  tenant_id : ℕ

structure ChangeRequestHost where
  change_request_id : ℕ
  infrastructure_component_id : ℕ
  tenant_id : ℕ

structure EnvironmentSubSystem where
  id : ℕ
  environment_id : ℕ
  subsystem_id : ℕ
  tenant_id : ℕ

structure EnvironmentSubSystemHost where
  environment_subsystem_id : ℕ
  infrastructure_component_id : ℕ
  tenant_id : ℕ

structure EnvironmentHealthStatus where
  id : ℕ
  tenant_id : ℕ
  environment_id : ℕ
  status : String
  recorded_at : DateTime

/-- A change request is linked to environments of its tenant: the services write its tenant
into the link. -/
structure Db where
  statuses : Statuses.Db
  cr_environments : List ChangeRequestEnvironment
  cr_hosts : List ChangeRequestHost
  environment_subsystems : List EnvironmentSubSystem
  subsystem_hosts : List EnvironmentSubSystemHost
  samples : List EnvironmentHealthStatus
  linked_tenant : ∀ link ∈ cr_environments, ∀ cr ∈ statuses.change_requests,
    cr.id = link.change_request_id → link.tenant_id = cr.tenant_id

def Db.environments (db : Db) : Table Environment Environment.id :=
  db.statuses.bookings.estate.environments

/-! ## The can-deploy gate -/

inductive BlockerType
  | environment_inactive
  | exclusive_booking
  | change_request_outage
  deriving DecidableEq

structure CanDeployBlocker where
  type : BlockerType
  ref_kind : String
  ref_id : ℕ
  title : Option String
  until_ : Option DateTime
  current_status : Option String
  deriving DecidableEq

structure CanDeployWarning where
  type : String
  ref_kind : String
  ref_id : ℕ
  title : Option String
  until_ : Option DateTime
  since : Option DateTime
  deriving DecidableEq

structure ClaimMatched where
  booking_id : ℕ
  matched_via : String
  claim_value : ℕ
  deriving DecidableEq

structure CanDeployResponse where
  ok : Bool
  environment_slug : String
  subsystem_slug : String
  checked_at : DateTime
  blockers : List CanDeployBlocker
  warnings : List CanDeployWarning
  claim_matched : Option ClaimMatched
  deriving DecidableEq

def _ACTIVE_BOOKING_STATUSES : List String := ["approved", "extension_requested"]

def _DEPLOYMENT_IN_PROGRESS_WINDOW : TimeDelta := timedelta.minutes 30

def _IN_FLIGHT_DEPLOYMENT_STATUSES : List String := ["pending", "in_progress"]

def _status_value : EnvironmentStatus → String
  | .active => "active"
  | .inactive => "inactive"
  | .maintenance => "maintenance"
  | .decommissioned => "decommissioned"

def inactive_blockers (env : Environment) : List CanDeployBlocker :=
  if _status_value env.status ≠ "active" then
    [⟨.environment_inactive, "environment", env.id, none, none, some (_status_value env.status)⟩]
  else []

/-- The bookings that run now, with their live requests. -/
def active_bookings (db : Db) (tenant_id environment_id : ℕ) (now : DateTime) :
    List (Booking × BookingRequest) :=
  (db.statuses.bookings.bookings.select fun b =>
    b.tenant_id = tenant_id ∧ b.environment_id = environment_id ∧ b.deleted_at = none ∧
      b.start_date ≤ now ∧ now < b.end_date ∧ b.status ∈ _ACTIVE_BOOKING_STATUSES).filterMap
    fun b => (db.statuses.bookings.requests.select_one fun br =>
      br.id = b.booking_request_id ∧ br.deleted_at = none).map fun br => (b, br)

/-- What the loop over the bookings has found so far. -/
structure Walk where
  blockers : List CanDeployBlocker
  warnings : List CanDeployWarning
  claim_matched : Option ClaimMatched

/-- The token that unlocks the booking, if one of the two does. -/
def claim (release_id booking_id : Option ℕ) (b : Booking) : Option ClaimMatched :=
  if booking_id = some b.id then some ⟨b.id, "booking_id", b.id⟩
  else match b.release_id with
    | some release => if release_id = some release then some ⟨b.id, "release_id", release⟩ else none
    | none => none

def walk_booking (release_id booking_id : Option ℕ) (w : Walk) : Booking × BookingRequest → Walk
  | (b, br) =>
    if br.exclusive_use_requested then
      match claim release_id booking_id b with
      | some matched =>
        if w.claim_matched = none ∨ (matched.matched_via = "booking_id" ∧
            w.claim_matched.map ClaimMatched.matched_via ≠ some "booking_id") then
          { w with claim_matched := some matched }
        else w
      | none => { w with
          blockers := w.blockers ++
            [⟨.exclusive_booking, "booking", b.id, some br.project_name, some b.end_date, none⟩] }
    else { w with
      warnings := w.warnings ++
        [⟨"non_exclusive_booking", "booking", b.id, some br.project_name, some b.end_date, none⟩] }

/-- The change requests whose outage window runs now. Their status is not asked for. -/
def open_outages (db : Db) (tenant_id environment_id : ℕ) (now : DateTime) :
    List ChangeRequest :=
  db.statuses.change_requests.select fun cr =>
    cr.tenant_id = tenant_id ∧ cr.deleted_at = none ∧ cr.has_outage = true ∧
      (∃ start ∈ cr.outage_start, start ≤ now) ∧ (∃ end_ ∈ cr.outage_end, now < end_) ∧
      ∃ link ∈ db.cr_environments, link.change_request_id = cr.id ∧
        link.environment_id = environment_id

def outage_blockers (db : Db) (tenant_id environment_id subsystem_id : ℕ) (now : DateTime) :
    List CanDeployBlocker :=
  ((open_outages db tenant_id environment_id now).filter fun cr =>
      cr.subsystem_id = none ∨ cr.subsystem_id = some subsystem_id).map fun cr =>
    ⟨.change_request_outage, "change_request", cr.id, some cr.title, cr.outage_end, none⟩

def in_flight_warnings (db : Db) (tenant_id environment_id subsystem_id : ℕ) (now : DateTime) :
    List CanDeployWarning :=
  (db.statuses.deployments.select fun d =>
    d.tenant_id = tenant_id ∧ d.environment_id = environment_id ∧
      d.status ∈ _IN_FLIGHT_DEPLOYMENT_STATUSES ∧
      now - _DEPLOYMENT_IN_PROGRESS_WINDOW ≤ d.deployed_at ∧
      ∃ b ∈ db.statuses.builds.rows, b.id = d.build_id ∧ b.subsystem_id = subsystem_id).map fun d =>
    ⟨"deployment_in_progress", "deployment", d.id, none, none, some d.deployed_at⟩

/-- The one subsystem of that name: a name shared across systems is ambiguous. -/
def resolve_subsystem (db : Db) (tenant_id : ℕ) (subsystem_slug : String) :
    Except Raised SubSystem :=
  match db.statuses.reference.subsystems.filter fun s =>
    s.tenant_id = tenant_id ∧ s.name = subsystem_slug ∧ s.deleted_at = none with
  | [] => .error (http 404 "subsystem not found")
  | [subsystem] => .ok subsystem
  | _ => .error (http 400 (s!"subsystem_slug '{subsystem_slug}' is ambiguous — "
      ++ "multiple systems define a subsystem with this name"))

def evaluate (db : Db) (tenant_id : ℕ) (environment_slug subsystem_slug : String)
    (release_id booking_id : Option ℕ) (now : DateTime) : Except Raised CanDeployResponse := do
  let env ← Lifecycle.scalar_one_or_none (db.environments.select fun e =>
    e.tenant_id = tenant_id ∧ e.name = environment_slug ∧ e.deleted_at = none)
  let env ← get_or_raise env (http 404 "environment not found")
  let subsystem ← resolve_subsystem db tenant_id subsystem_slug
  let walk := (active_bookings db tenant_id env.id now).foldl (walk_booking release_id booking_id)
    ⟨inactive_blockers env, [], none⟩
  let blockers := walk.blockers ++ outage_blockers db tenant_id env.id subsystem.id now
  .ok
    { ok := blockers.isEmpty
      environment_slug := environment_slug
      subsystem_slug := subsystem_slug
      checked_at := now
      blockers := blockers
      warnings := walk.warnings ++ in_flight_warnings db tenant_id env.id subsystem.id now
      claim_matched := walk.claim_matched }

/-! ## The health overview -/

def STALE_AFTER : TimeDelta := timedelta.minutes 15

def INACTIVE_CR_STATUSES : List String := ["cancelled", "rejected"]

def INACTIVE_BOOKING_STATUSES : List String := ["draft", "rejected", "closed"]

def _latest (db : Db) (tenant_id environment_id : ℕ) : Option EnvironmentHealthStatus :=
  (order_by (fun s => -s.recorded_at) (db.samples.filter fun s =>
    s.tenant_id = tenant_id ∧ s.environment_id = environment_id)).head?

def _derive_status (latest : Option EnvironmentHealthStatus) (now : DateTime) :
    String × Option DateTime :=
  match latest with
  | none => ("unknown", none)
  | some latest =>
    if STALE_AFTER < now - latest.recorded_at then ("unknown", some latest.recorded_at)
    else (latest.status, some latest.recorded_at)

structure ActiveBooking where
  project_name : String
  start_date : DateTime
  end_date : DateTime
  deriving DecidableEq

def _active_booking (db : Db) (tenant_id environment_id : ℕ) (now : DateTime) :
    Option ActiveBooking :=
  (db.statuses.bookings.bookings.select_one fun b =>
    b.tenant_id = tenant_id ∧ b.environment_id = environment_id ∧ b.deleted_at = none ∧
      b.status ∉ INACTIVE_BOOKING_STATUSES ∧ b.start_date ≤ now ∧ now ≤ b.end_date).map fun b =>
    let req := db.statuses.bookings.requests.select_one fun br =>
      br.id = b.booking_request_id ∧ br.tenant_id = tenant_id ∧ br.deleted_at = none
    ⟨(req.map BookingRequest.project_name).getD "Booking", b.start_date, b.end_date⟩

/-- The outage window, or the scheduled one where a bound is missing, covers the instant. -/
def planned_now (now : DateTime) (cr : ChangeRequest) : Bool :=
  cr.status ∉ INACTIVE_CR_STATUSES ∧ cr.outage_start.getD cr.scheduled_start ≤ now ∧
    now ≤ cr.outage_end.getD cr.scheduled_end

def _planned_outage (db : Db) (tenant_id environment_id : ℕ) (now : DateTime) : Bool :=
  (db.statuses.change_requests.select fun cr =>
    cr.tenant_id = tenant_id ∧
      (∃ link ∈ db.cr_environments, link.change_request_id = cr.id ∧
        link.environment_id = environment_id ∧ link.tenant_id = tenant_id) ∧
      cr.deleted_at = none ∧ cr.has_outage = true).any (planned_now now)

structure HealthRow where
  environment_id : ℕ
  environment_name : String
  current_status : String
  last_recorded_at : Option DateTime
  active_booking : Bool
  active_booking_summary : Option ActiveBooking
  planned_outage : Bool
  alert : Bool
  deriving DecidableEq

def health_row (db : Db) (tenant_id : ℕ) (now : DateTime) (env : Environment) : HealthRow :=
  let (current, last_at) := _derive_status (_latest db tenant_id env.id) now
  let booking := _active_booking db tenant_id env.id now
  let outage := _planned_outage db tenant_id env.id now
  { environment_id := env.id
    environment_name := env.name
    current_status := current
    last_recorded_at := last_at
    active_booking := booking.isSome
    active_booking_summary := booking
    planned_outage := outage
    alert := current ∈ ["down", "issue"] && booking.isSome && !outage }

def health_overview (db : Db) (tenant_id : ℕ) (now : DateTime) (page : Option Page) :
    List HealthRow × ℕ :=
  let (envs, total) := fetch_page
    (order_by (fun e : Environment => toLex (e.name, e.id)) (db.environments.select fun e =>
      e.tenant_id = tenant_id ∧ e.deleted_at = none ∧ e.status ≠ .decommissioned)) page
  (envs.map (health_row db tenant_id now), total)

/-! ## The schedule -/

structure Schedule where
  bookings : List Booking
  change_requests : List ChangeRequest

/-- `change_request_service.get_environment_schedule`. -/
def get_environment_schedule (db : Db) (env_id tenant_id : ℕ) (start_date end_date : DateTime) :
    Except Raised Schedule := do
  let _ ← get_or_raise
    (db.environments.select_one fun e =>
      e.id = env_id ∧ e.tenant_id = tenant_id ∧ e.deleted_at = none)
    (http 404 "Environment not found")
  let env_junction := (db.cr_environments.filter fun link => link.environment_id = env_id).map
    ChangeRequestEnvironment.change_request_id
  let host_junction := (db.cr_hosts.filter fun h =>
    ∃ sh ∈ db.subsystem_hosts, sh.infrastructure_component_id = h.infrastructure_component_id ∧
      ∃ es ∈ db.environment_subsystems, es.id = sh.environment_subsystem_id ∧
        es.environment_id = env_id).map ChangeRequestHost.change_request_id
  .ok
    { bookings := order_by Booking.start_date (db.statuses.bookings.bookings.select fun b =>
        b.environment_id = env_id ∧ b.tenant_id = tenant_id ∧ b.deleted_at = none ∧
          start_date < b.end_date ∧ b.start_date < end_date)
      change_requests := order_by ChangeRequest.scheduled_start
        (db.statuses.change_requests.select fun cr =>
          cr.tenant_id = tenant_id ∧ cr.deleted_at = none ∧ start_date < cr.scheduled_end ∧
            cr.scheduled_start < end_date ∧ (cr.id ∈ env_junction ∨ cr.id ∈ host_junction)) }

end EnvMgr.Outages
