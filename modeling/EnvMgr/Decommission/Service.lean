/-
Environment decommissions: the tables of `environment_decommission.py`, the six writes of a
decommission record in `environment_decommission_service.py`, the booking refusal that reads it,
and over them the routes of `api/v1/decommissions.py` as one step function.

A record stores facts only. That it is live, torn down or cancelled is read off its columns,
never stored, and nothing ever deletes a record or changes an attestation. A request reads the
clock once and hands the same instant to everything it calls.
-/
import EnvMgr.Core.Directory
import EnvMgr.Lib.Runs
import EnvMgr.Lib.Table
import Mathlib.Data.Prod.Lex

namespace EnvMgr.Decommission

/-- One decommission attempt. -/
structure EnvironmentDecommission where
  id : ℕ
  tenant_id : ℕ
  environment_id : ℕ
  reason : String
  warned_at : DateTime
  scheduled_teardown_at : DateTime
  initiated_by : ℕ
  extension_requested_at : Option DateTime
  extension_requested_by : Option ℕ
  extension_reason : Option String
  extension_until : Option DateTime
  extension_decided_at : Option DateTime
  extension_decided_by : Option ℕ
  extension_granted : Option Bool
  torn_down_at : Option DateTime
  torn_down_by : Option ℕ
  cancelled_at : Option DateTime
  cancelled_by : Option ℕ
  cancel_reason : Option String
  deleted_at : Option DateTime
  deriving DecidableEq

/-- A human confirming that one checklist step happened. -/
structure EnvironmentDecommissionAttestation where
  id : ℕ
  tenant_id : ℕ
  decommission_id : ℕ
  step_key : String
  signed_by : ℕ
  signed_at : DateTime
  reference : Option String
  notes : Option String
  deriving DecidableEq

/-- One line of a tenant's checklist. -/
structure EnvironmentDecommissionStep where
  id : ℕ
  tenant_id : ℕ
  key : String
  display_order : ℤ
  is_required : Bool
  is_active : Bool
  deleted_at : Option DateTime
  deriving DecidableEq

structure EnvironmentLifecyclePolicy where
  tenant_id : ℕ
  decommission_notice_days : ℕ
  deriving DecidableEq

/-- The columns of an environment that its own service can change. -/
structure EnvironmentValues where
  name : String
  status : EnvironmentStatus
  owner_user_id : Option ℕ
  operations_group_id : Option ℕ
  deleted_at : Option DateTime
  deriving DecidableEq

/-- A tenant's environments and everything that bears on their decommissioning. -/
structure Estate where
  environments : Table Environment Environment.id
  decommissions : Table EnvironmentDecommission EnvironmentDecommission.id
  attestations : Table EnvironmentDecommissionAttestation EnvironmentDecommissionAttestation.id
  steps : List EnvironmentDecommissionStep
  policies : List EnvironmentLifecyclePolicy
  members : List UserGroupMember

/-- An estate in which nothing has been decommissioned yet. -/
def Estate.fresh (environments : Table Environment Environment.id)
    (steps : List EnvironmentDecommissionStep) (policies : List EnvironmentLifecyclePolicy)
    (members : List UserGroupMember) : Estate where
  environments := environments
  decommissions := Table.empty
  attestations := Table.empty
  steps := steps
  policies := policies
  members := members

/-- `live_predicate`: the record still constrains bookings. -/
def live (d : EnvironmentDecommission) : Prop :=
  d.deleted_at = none ∧ d.cancelled_at = none ∧ d.torn_down_at = none
  deriving Decidable

/-- `environment_lifecycle_policy_service.get_policy`: the tenant's row, or the
defaults. -/
def get_policy (policies : List EnvironmentLifecyclePolicy) (tenant_id : ℕ) :
    EnvironmentLifecyclePolicy :=
  (policies.find? fun p => p.tenant_id = tenant_id).getD ⟨tenant_id, 5⟩

/-- `environment_lifecycle_policy_service.list_steps`. -/
def list_steps (steps : List EnvironmentDecommissionStep) (tenant_id : ℕ)
    (active_only : Bool) : List EnvironmentDecommissionStep :=
  order_by (fun s => toLex (s.display_order, s.id))
    (steps.filter fun s =>
      s.tenant_id = tenant_id ∧ s.deleted_at = none ∧ (active_only = true → s.is_active = true))


/-! ## Who may act -/

/-- `environment_service.get_environment`. -/
def get_environment (s : Estate) (env_id tenant_id : ℕ) : Except Raised Environment :=
  get_or_raise
    (s.environments.select_one fun e =>
      e.id = env_id ∧ e.tenant_id = tenant_id ∧ e.deleted_at = none)
    (http 404 "Environment not found")

/-- The operating team, or an admin. An environment without a group joins to no
membership row, so that only admins are left. -/
def assert_may_run (s : Estate) (environment : Environment) (user : CurrentUser) :
    Except Raised Unit :=
  raise_if
    (¬ (user.role = Role.ADMIN ∨ user.is_master_admin) ∧
      ¬ ∃ m ∈ s.members, environment.operations_group_id = some m.group_id ∧
        m.user_id = user.id ∧ m.tenant_id = environment.tenant_id)
    (http 403 ("Only the operating team for this environment, or an admin, can "
      ++ "run its decommission"))

/-- The environment's named owner, or an admin: the party the operating team
decommissions against. -/
def assert_may_defend (environment : Environment) (user : CurrentUser) : Except Raised Unit :=
  raise_if
    (¬ (user.role = Role.ADMIN ∨ user.is_master_admin) ∧
      environment.owner_user_id ≠ some user.id)
    (http 403 "Only this environment's owner, or an admin, can do this")

/-! ## Look-ups -/

/-- The live record of an environment. -/
def get_live (s : Estate) (tenant_id environment_id : ℕ) : Option EnvironmentDecommission :=
  s.decommissions.select_one fun d =>
    d.tenant_id = tenant_id ∧ d.environment_id = environment_id ∧ live d

def get_decommission_by_id (s : Estate) (decommission_id tenant_id : ℕ) :
    Except Raised EnvironmentDecommission :=
  get_or_raise
    (s.decommissions.select_one fun d =>
      d.id = decommission_id ∧ d.tenant_id = tenant_id ∧ d.deleted_at = none)
    (http 404 "Decommission not found")

/-- The live row is looked up afresh, not read off the object in hand. -/
def still_live (s : Estate) (decommission : EnvironmentDecommission) : Prop :=
  ∃ d ∈ s.decommissions, d.id = decommission.id ∧ d.tenant_id = decommission.tenant_id ∧ live d
  deriving Decidable

def _assert_still_live (s : Estate) (decommission : EnvironmentDecommission) :
    Except Raised Unit :=
  raise_if (¬ still_live s decommission)
    (http 409 ("This decommission is no longer live — it has been cancelled or "
      ++ "already torn down"))

/-! ## Starting one -/

/-- The row `initiate` inserts. -/
def initiated (tenant_id environment_id : ℕ) (user : CurrentUser) (reason : String)
    (warned_at teardown : DateTime) (id : ℕ) : EnvironmentDecommission where
  id := id
  tenant_id := tenant_id
  environment_id := environment_id
  reason := strip reason
  warned_at := warned_at
  scheduled_teardown_at := teardown
  initiated_by := user.id
  extension_requested_at := none
  extension_requested_by := none
  extension_reason := none
  extension_until := none
  extension_decided_at := none
  extension_decided_by := none
  extension_granted := none
  torn_down_at := none
  torn_down_by := none
  cancelled_at := none
  cancelled_by := none
  cancel_reason := none
  deleted_at := none

def initiate (s : Estate) (tenant_id environment_id : ℕ) (user : CurrentUser) (reason : String)
    (scheduled_teardown_at : Option DateTime) (now : DateTime) : Except Raised Estate := do
  let environment ← get_environment s environment_id tenant_id
  assert_may_run s environment user
  raise_if (strip reason = "")
    (http 422 ("A reason is required — a decommission with no stated reason is "
      ++ "not an audit record"))
  raise_if ((get_live s tenant_id environment_id).isSome)
    (http 409 "This environment already has a live decommission")
  let policy := get_policy s.policies tenant_id
  let warned_at := now
  let earliest_teardown := warned_at + timedelta.days policy.decommission_notice_days
  let teardown := scheduled_teardown_at.getD earliest_teardown
  raise_if (scheduled_teardown_at.isSome ∧ teardown < earliest_teardown)
    (http 422 ("scheduled_teardown_at cannot be earlier than the tenant's "
      ++ s!"{policy.decommission_notice_days}-day notice period"))
  .ok { s with
    decommissions := s.decommissions.insert
      ⟨initiated tenant_id environment_id user reason warned_at teardown, fun _ => rfl⟩ }

/-! ## The extension -/

/-- `UPDATE environment_decommission SET .. WHERE id = ..`. -/
def write (s : Estate) (decommission_id : ℕ) (f : Table.Edit EnvironmentDecommission.id) :
    Estate :=
  { s with decommissions := s.decommissions.update (fun d => d.id = decommission_id) f }

def set_request (user : CurrentUser) (reason : String) (until_ now : DateTime) :
    Table.Edit EnvironmentDecommission.id where
  apply d :=
    { d with
      extension_requested_at := some now
      extension_requested_by := some user.id
      extension_reason := some (strip reason)
      extension_until := some until_ }
  key_apply _ := rfl

def request_extension (s : Estate) (decommission : EnvironmentDecommission) (user : CurrentUser)
    (reason : String) (until_ now : DateTime) : Except Raised Estate := do
  let environment ← get_environment s decommission.environment_id decommission.tenant_id
  assert_may_defend environment user
  raise_if (¬ still_live s decommission)
    (http 409 ("This decommission is no longer live — it has been cancelled or "
      ++ "torn down"))
  raise_if (decommission.extension_requested_at ≠ none)
    (http 409 ("This decommission already has an extension request on record — "
      ++ "cancel this decommission and raise a new one instead"))
  raise_if (until_ ≤ decommission.scheduled_teardown_at)
    (http 422 ("until must be strictly later than the current "
      ++ "scheduled_teardown_at, or this would shorten the notice period"))
  .ok (write s decommission.id (set_request user reason until_ now))

/-- The decision; `moved` is the date a grant moves the teardown to. -/
def set_decision (user : CurrentUser) (granted : Bool) (moved : Option DateTime)
    (now : DateTime) : Table.Edit EnvironmentDecommission.id where
  apply d :=
    { d with
      extension_decided_at := some now
      extension_decided_by := some user.id
      extension_granted := some granted
      scheduled_teardown_at := moved.getD d.scheduled_teardown_at }
  key_apply _ := rfl

def decide_extension (s : Estate) (decommission : EnvironmentDecommission) (user : CurrentUser)
    (granted : Bool) (now : DateTime) : Except Raised Estate := do
  let environment ← get_environment s decommission.environment_id decommission.tenant_id
  assert_may_run s environment user
  _assert_still_live s decommission
  raise_if (decommission.extension_requested_at = none ∨ decommission.extension_decided_at ≠ none)
    (http 409 "There is no undecided extension request on this decommission")
  if granted then
    match decommission.extension_until with
    | some until_ => .ok (write s decommission.id (set_decision user granted (some until_) now))
    -- the column the grant copies into is not nullable
    | none => .error .IntegrityError
  else .ok (write s decommission.id (set_decision user granted none now))

/-! ## The checklist -/

/-- A step of the record's checklist is signed. -/
def is_signed (s : Estate) (decommission : EnvironmentDecommission) (step_key : String) : Prop :=
  ∃ a ∈ s.attestations, a.decommission_id = decommission.id ∧
    a.tenant_id = decommission.tenant_id ∧ a.step_key = step_key
  deriving Decidable

def missing_required_steps (s : Estate) (decommission : EnvironmentDecommission) :
    List String :=
  (((list_steps s.steps decommission.tenant_id true).filter fun step => step.is_required).map
    EnvironmentDecommissionStep.key).filter fun key => ¬ is_signed s decommission key

def sign_attestation (s : Estate) (decommission : EnvironmentDecommission) (user : CurrentUser)
    (step_key : String) (reference notes : Option String) (now : DateTime) :
    Except Raised Estate := do
  let environment ← get_environment s decommission.environment_id decommission.tenant_id
  assert_may_run s environment user
  _assert_still_live s decommission
  -- a retired step can still be signed; it has only stopped gating
  let known_keys := (list_steps s.steps decommission.tenant_id false).map
    EnvironmentDecommissionStep.key
  raise_if (step_key ∉ known_keys)
    (http 422 (py_repr step_key ++ " is not a recognised decommission step for this tenant"))
  raise_if (is_signed s decommission step_key)
    (http 409 (py_repr step_key ++ " has already been signed on this decommission"))
  .ok { s with
    attestations := s.attestations.insert
      ⟨fun id => ⟨id, decommission.tenant_id, decommission.id, step_key, user.id, now,
        reference, notes⟩, fun _ => rfl⟩ }

/-! ## The two ends of a record -/

def set_torn_down (user : CurrentUser) (now : DateTime) :
    Table.Edit EnvironmentDecommission.id where
  apply d := { d with torn_down_at := some now, torn_down_by := some user.id }
  key_apply _ := rfl

def set_status (status : EnvironmentStatus) : Table.Edit Environment.id where
  apply e := { e with status := status }
  key_apply _ := rfl

/-- The one write outside the record's own rows: the environment's status. -/
def tear_down (s : Estate) (decommission : EnvironmentDecommission) (user : CurrentUser)
    (now : DateTime) : Except Raised Estate := do
  let environment ← get_environment s decommission.environment_id decommission.tenant_id
  assert_may_run s environment user
  _assert_still_live s decommission
  let missing := missing_required_steps s decommission
  raise_if (missing ≠ [])
    (http 422 ("Every required step must be signed before teardown. Still "
      ++ "missing: " ++ ", ".intercalate missing))
  let torn := write s decommission.id (set_torn_down user now)
  .ok { torn with
    environments := s.environments.update (fun e => e.id = environment.id)
      (set_status .decommissioned) }

def set_cancelled (user : CurrentUser) (reason : String) (now : DateTime) :
    Table.Edit EnvironmentDecommission.id where
  apply d :=
    { d with
      cancelled_at := some now
      cancelled_by := some user.id
      cancel_reason := some (strip reason) }
  key_apply _ := rfl

/-- The escape hatch: a torn-down record can be cancelled, a cancelled one
cannot be cancelled again. -/
def cancel (s : Estate) (decommission : EnvironmentDecommission) (user : CurrentUser)
    (reason : String) (now : DateTime) : Except Raised Estate := do
  let environment ← get_environment s decommission.environment_id decommission.tenant_id
  assert_may_run s environment user
  raise_if (decommission.cancelled_at ≠ none)
    (http 409 "This decommission has already been cancelled")
  raise_if (strip reason = "")
    (http 422 ("A reason is required — a cancellation with no stated reason is "
      ++ "not an audit record"))
  .ok (write s decommission.id (set_cancelled user reason now))

/-! ## The booking refusal -/

/-- The teardown dates the left join gives an environment: those of its live
records, or a single null. -/
def teardowns (s : Estate) (tenant_id : ℕ) (env : Environment) : List (Option DateTime) :=
  match s.decommissions.select fun d =>
      d.environment_id = env.id ∧ d.tenant_id = tenant_id ∧ live d with
  | [] => [none]
  | ds => ds.map fun d => some d.scheduled_teardown_at

/-- One row of the join. The end is a null where a client sent one. -/
def assert_row_bookable (end_ : Option DateTime) (env : Environment)
    (teardown_at : Option DateTime) : Except Raised Unit := do
  raise_if (env.status = .decommissioned)
    (http 409 s!"{env.name} has already been decommissioned and cannot be booked")
  match teardown_at, end_ with
  | none, _ => .ok ()
  | some _, none => .error .TypeError
  | some teardown, some end_ =>
    raise_if (teardown < end_)
      (http 409 (s!"{env.name} is scheduled to be torn down on {date_isoformat teardown}"
        ++ " — this booking runs past that date"))

/-- Refuse a booking that ends past a live record's teardown date. The start is
taken for symmetry only; environments of other tenants do not match the query. -/
def assert_bookable (s : Estate) (tenant_id : ℕ) (environment_ids : List ℕ)
    (_start : DateTime) (end_ : Option DateTime) : Except Raised Unit :=
  for_each
    (s.environments.select fun e => e.id ∈ environment_ids ∧ e.tenant_id = tenant_id)
    fun env => for_each (teardowns s tenant_id env) (assert_row_bookable end_ env)

/-! ## The routes -/

/-- A request, with the clock it reads. The last three are what other services
do to the rows this one only reads. -/
inductive Event
  | initiate (user : CurrentUser) (environment_id : ℕ) (reason : String)
      (scheduled_teardown_at : Option DateTime) (now : DateTime)
  | request_extension (user : CurrentUser) (decommission_id : ℕ) (reason : String)
      (until_ now : DateTime)
  | decide_extension (user : CurrentUser) (decommission_id : ℕ) (granted : Bool)
      (now : DateTime)
  | sign_attestation (user : CurrentUser) (decommission_id : ℕ) (step_key : String)
      (reference notes : Option String) (now : DateTime)
  | tear_down (user : CurrentUser) (decommission_id : ℕ) (now : DateTime)
  | cancel (user : CurrentUser) (decommission_id : ℕ) (reason : String) (now : DateTime)
  | create_environment (tenant_id : ℕ) (values : EnvironmentValues)
  | update_environment (environment_id : ℕ) (values : EnvironmentValues)
  | configure (steps : List EnvironmentDecommissionStep)
      (policies : List EnvironmentLifecyclePolicy) (members : List UserGroupMember)

def new_environment (tenant_id : ℕ) (values : EnvironmentValues) : Table.New Environment.id where
  row id := ⟨id, tenant_id, values.name, values.status, values.owner_user_id,
    values.operations_group_id, values.deleted_at⟩
  key_row _ := rfl

def set_values (values : EnvironmentValues) : Table.Edit Environment.id where
  apply e :=
    { e with
      name := values.name
      status := values.status
      owner_user_id := values.owner_user_id
      operations_group_id := values.operations_group_id
      deleted_at := values.deleted_at }
  key_apply _ := rfl

def handle (s : Estate) : Event → Except Raised Estate
  | .initiate user environment_id reason scheduled_teardown_at now =>
    initiate s user.active_tenant_id environment_id user reason scheduled_teardown_at now
  | .request_extension user decommission_id reason until_ now => do
    let decommission ← get_decommission_by_id s decommission_id user.active_tenant_id
    request_extension s decommission user reason until_ now
  | .decide_extension user decommission_id granted now => do
    let decommission ← get_decommission_by_id s decommission_id user.active_tenant_id
    decide_extension s decommission user granted now
  | .sign_attestation user decommission_id step_key reference notes now => do
    let decommission ← get_decommission_by_id s decommission_id user.active_tenant_id
    sign_attestation s decommission user step_key reference notes now
  | .tear_down user decommission_id now => do
    let decommission ← get_decommission_by_id s decommission_id user.active_tenant_id
    tear_down s decommission user now
  | .cancel user decommission_id reason now => do
    let decommission ← get_decommission_by_id s decommission_id user.active_tenant_id
    cancel s decommission user reason now
  | .create_environment tenant_id values =>
    .ok { s with environments := s.environments.insert (new_environment tenant_id values) }
  | .update_environment environment_id values =>
    .ok { s with
      environments := s.environments.update (fun e => e.id = environment_id)
        (set_values values) }
  | .configure steps policies members =>
    .ok { s with steps := steps, policies := policies, members := members }

def step (s : Estate) (e : Event) : Estate := commit_or_rollback s (handle s e)

end EnvMgr.Decommission
