/-
Enterprise releases and the project releases in them:
`services/enterprise_membership_service.py`.

A membership is requested, then accepted, rejected or withdrawn, and once accepted it may
be removed. Which enterprise a project release is in stands in its own row, and the
memberships record how it got there. The two are written by this service, while releases
come and go in another.
-/
import EnvMgr.Statuses.Deployments

namespace EnvMgr.Memberships

open Lifecycle (LifecycleTemplate)
open Bookings (Json)

/-! ## Tables -/

inductive MembershipState
  | pending_request
  | accepted
  | rejected
  | withdrawn
  | removed
  deriving DecidableEq

def MembershipState.value : MembershipState → String
  | pending_request => "pending_request"
  | accepted => "accepted"
  | rejected => "rejected"
  | withdrawn => "withdrawn"
  | removed => "removed"

structure ReleaseMembership where
  id : ℕ
  tenant_id : ℕ
  enterprise_release_id : ℕ
  project_release_id : ℕ
  state : MembershipState
  requested_by : ℕ
  requested_at : DateTime
  decided_by : Option ℕ
  decided_at : Option DateTime
  removed_by : Option ℕ
  removed_at : Option DateTime
  removal_reason : Option String
  late_scope : Bool
  notes : Option String
  deriving DecidableEq

structure Db where
  statuses : Statuses.Db
  /-- The column `parent_release_id` of the table of releases, by the id of the row. -/
  parent_release_id : ℕ → Option ℕ
  memberships : Table ReleaseMembership ReleaseMembership.id

/-- Releases of any kind, none of them in another. -/
def Db.opened (statuses : Statuses.Db) : Db := ⟨statuses, fun _ => none, Table.empty⟩

/-- `release.parent_release_id = parent`. -/
def Db.set_parent (db : Db) (release : Statuses.Release) (parent : Option ℕ) : Db :=
  { db with parent_release_id := Function.update db.parent_release_id release.id parent }

/-- A change of one membership. -/
def Db.set_membership (db : Db) (m : ReleaseMembership)
    (f : Table.Edit ReleaseMembership.id) : Db :=
  { db with memberships := db.memberships.update (fun m' => m'.id = m.id) f }

/-! ## Look-ups -/

def _get_release (db : Db) (release_id tenant_id : ℕ) : Except Raised Statuses.Release :=
  Statuses._get_release db.statuses release_id tenant_id

/-- `scalar_one_or_none`. -/
def scalar_one_or_none (rows : List ReleaseMembership) : Except Raised (Option ReleaseMembership) :=
  match rows with
  | [] => .ok none
  | [m] => .ok (some m)
  | _ => .error .MultipleResultsFound

/-- Pending or accepted. -/
def ReleaseMembership.is_open (m : ReleaseMembership) : Bool :=
  m.state = .pending_request || m.state = .accepted

def _get_open_membership_for_project (db : Db) (project_release_id : ℕ) :
    Except Raised (Option ReleaseMembership) :=
  scalar_one_or_none
    (db.memberships.select fun m => m.project_release_id = project_release_id && m.is_open)

def _get_membership (db : Db) (membership_id tenant_id : ℕ) : Except Raised ReleaseMembership :=
  get_or_raise
    (db.memberships.select_one fun m => m.id = membership_id ∧ m.tenant_id = tenant_id)
    (http 404 "Membership not found")

/-- `db.get(LifecycleTemplate, id)`: of any tenant, deleted or not. -/
def get_template (db : Db) (template_id : ℕ) : Option LifecycleTemplate :=
  db.statuses.templates.select_one fun t => t.id = template_id

/-! ## Requesting -/

/-- The row of a new request. -/
def requested_row (user : CurrentUser) (enterprise_id project_release_id : ℕ)
    (notes : Option String) (now : DateTime) (id : ℕ) : ReleaseMembership where
  id := id
  tenant_id := user.active_tenant_id
  enterprise_release_id := enterprise_id
  project_release_id := project_release_id
  state := .pending_request
  requested_by := user.id
  requested_at := now
  decided_by := none
  decided_at := none
  removed_by := none
  removed_at := none
  removal_reason := none
  late_scope := false
  notes := notes

def request_membership (db : Db) (user : CurrentUser) (enterprise_id project_release_id : ℕ)
    (notes : Option String) (now : DateTime) : Except Raised Db := do
  let enterprise ← _get_release db enterprise_id user.active_tenant_id
  let project ← _get_release db project_release_id user.active_tenant_id
  raise_if (enterprise.release_kind ≠ "enterprise") (http 422 "Target is not an enterprise release")
  raise_if (project.release_kind ≠ "project") (http 422 "Only project releases can be admitted")
  let existing ← _get_open_membership_for_project db project_release_id
  raise_if (existing ≠ none)
    (http 409 "Project release already has a pending or accepted membership")
  .ok { db with
    memberships := db.memberships.insert
      ⟨requested_row user enterprise_id project_release_id notes now, fun _ => rfl⟩ }

/-! ## Deciding -/

/-- The enterprise is in its lockdown state or past it, in the order of the template. -/
def _compute_late_scope (enterprise : Statuses.Release) (template : LifecycleTemplate) : Bool :=
  let states := template.definition.states
  match states.findIdx? (fun s => s.flag "is_admission_lockdown"),
    states.findIdx? (fun s => s.key = enterprise.status) with
  | some lockdown_idx, some current_idx => lockdown_idx ≤ current_idx
  | _, _ => false

/-- `perms.get(enterprise.status, {}).get(action_key, [])`. -/
def roles_for_state (template : LifecycleTemplate) (enterprise : Statuses.Release)
    (action_key : String) : List String :=
  let perms := template.definition.action_permissions.getD Dict.empty
  ((perms.get enterprise.status).getD Dict.empty |>.get action_key).getD []

def _check_action_permission (db : Db) (enterprise : Statuses.Release) (user : CurrentUser)
    (action_key : String) : Except Raised Unit := do
  let tpl ← get_or_raise (get_template db enterprise.lifecycle_template_id)
    (http 404 "Lifecycle template missing")
  raise_if (user.role ∉ roles_for_state tpl enterprise action_key)
    (http 403 s!"Not permitted: {action_key}")

/-- The membership must be in the state that a decision starts from. -/
def _require_state (m : ReleaseMembership) (state : MembershipState) (verb : String) :
    Except Raised Unit :=
  raise_if (m.state ≠ state) (http 409 s!"Membership state is {m.state.value}, cannot {verb}")

def accept (db : Db) (user : CurrentUser) (membership_id : ℕ) (now : DateTime) :
    Except Raised Db := do
  let m ← _get_membership db membership_id user.active_tenant_id
  _require_state m .pending_request "accept"
  let enterprise ← _get_release db m.enterprise_release_id user.active_tenant_id
  let project ← _get_release db m.project_release_id user.active_tenant_id
  _check_action_permission db enterprise user "membership.admit"
  let existing ← scalar_one_or_none (db.memberships.select fun m' =>
    m'.project_release_id = project.id ∧ m'.state = .accepted)
  raise_if (existing ≠ none) (http 409 "Project already has an accepted membership")
  let tpl ← get_or_raise (get_template db enterprise.lifecycle_template_id) .AttributeError
  .ok ((db.set_membership m
    { apply m :=
        { m with
          late_scope := _compute_late_scope enterprise tpl
          state := .accepted
          decided_by := some user.id
          decided_at := some now }
      key_apply _ := rfl }).set_parent project (some enterprise.id))

def reject (db : Db) (user : CurrentUser) (membership_id : ℕ) (notes : String) (now : DateTime) :
    Except Raised Db := do
  let m ← _get_membership db membership_id user.active_tenant_id
  _require_state m .pending_request "reject"
  let enterprise ← _get_release db m.enterprise_release_id user.active_tenant_id
  _check_action_permission db enterprise user "membership.reject"
  .ok (db.set_membership m
    { apply m :=
        { m with
          state := .rejected
          decided_by := some user.id
          decided_at := some now
          notes := some notes }
      key_apply _ := rfl })

def withdraw (db : Db) (user : CurrentUser) (membership_id : ℕ) (now : DateTime) :
    Except Raised Db := do
  let m ← _get_membership db membership_id user.active_tenant_id
  _require_state m .pending_request "withdraw"
  raise_if (m.requested_by ≠ user.id ∧ user.role ≠ Role.ADMIN)
    (http 403 "Only the requester or a tenant admin can withdraw")
  .ok (db.set_membership m
    { apply m :=
        { m with state := .withdrawn, decided_by := some user.id, decided_at := some now }
      key_apply _ := rfl })

def remove (db : Db) (user : CurrentUser) (membership_id : ℕ) (reason : String) (now : DateTime) :
    Except Raised Db := do
  let m ← _get_membership db membership_id user.active_tenant_id
  _require_state m .accepted "remove"
  let enterprise ← _get_release db m.enterprise_release_id user.active_tenant_id
  let project ← _get_release db m.project_release_id user.active_tenant_id
  _check_action_permission db enterprise user "membership.remove"
  .ok ((db.set_membership m
    { apply m :=
        { m with
          state := .removed
          removed_by := some user.id
          removed_at := some now
          removal_reason := some reason }
      key_apply _ := rfl }).set_parent project none)

/-! ## Updates of releases -/

structure ReleaseUpdate where
  name : Sent String
  description : Sent String
  release_type : Sent String
  owning_project_id : Sent ℕ
  operations_group_id : Sent ℕ
  target_date : Sent DateTime
  scope_deadline : Sent DateTime
  actual_date : Sent DateTime
  custom_fields : Sent (Dict Json)

/-- What was sent, if it is not what is stored already. -/
def new_value (sent : Sent ℕ) (current : Option ℕ) : List ℕ :=
  match sent with
  | .value id => if current = some id then [] else [id]
  | _ => []

def ReleaseUpdate.set (data : ReleaseUpdate) (r : Statuses.Release) : Statuses.Release :=
  { r with
    name := data.name.set_required r.name
    description := data.description.set_nullable r.description
    release_type := data.release_type.set_required r.release_type
    owning_project_id := data.owning_project_id.set_nullable r.owning_project_id
    operations_group_id := data.operations_group_id.set_nullable r.operations_group_id
    target_date := data.target_date.set_nullable r.target_date
    scope_deadline := data.scope_deadline.set_nullable r.scope_deadline
    actual_date := data.actual_date.set_nullable r.actual_date
    custom_fields := data.custom_fields.set_nullable r.custom_fields }

/-- `release_service.update_release`. -/
def update_release (db : Statuses.Db) (release_id : ℕ) (data : ReleaseUpdate) (tenant_id : ℕ) :
    Except Raised Statuses.Db := do
  let release ← Statuses._get_release db release_id tenant_id
  raise_if (data.scope_deadline.set_nullable none ≠ none ∧ release.release_kind = "enterprise")
    (http 422 "scope_deadline is only valid on project releases")
  for_each (new_value data.owning_project_id release.owning_project_id) fun project_id =>
    Bookings.get_project db.bookings project_id tenant_id >>= fun _ => .ok ()
  for_each (new_value data.operations_group_id release.operations_group_id) fun group_id =>
    get_group db.reference.user_groups group_id tenant_id >>= fun _ => .ok ()
  raise_if (data.name.get "" = none ∨ data.release_type.get "" = none) .IntegrityError
  .ok { db with
    releases := db.releases.update (fun r => r.id = release.id) ⟨data.set, fun _ => rfl⟩ }

/-! ## The routes -/

/-- `statuses` is any request about releases, their templates and what else runs on
templates. -/
inductive Request
  | request_membership (user : CurrentUser) (enterprise_id project_release_id : ℕ)
      (notes : Option String) (now : DateTime)
  | accept_membership (user : CurrentUser) (membership_id : ℕ) (now : DateTime)
  | reject_membership (user : CurrentUser) (membership_id : ℕ) (notes : String) (now : DateTime)
  | withdraw_membership (user : CurrentUser) (membership_id : ℕ) (now : DateTime)
  | remove_membership (user : CurrentUser) (membership_id : ℕ) (reason : String) (now : DateTime)
  | update_release (user : CurrentUser) (release_id : ℕ) (data : ReleaseUpdate)
  | statuses (request : Statuses.Request)

def handle (ext : Bookings.External) (db : Db) : Request → Except Raised Db
  | .request_membership user enterprise_id project_release_id notes now =>
    request_membership db user enterprise_id project_release_id notes now
  | .accept_membership user membership_id now => accept db user membership_id now
  | .reject_membership user membership_id notes now => reject db user membership_id notes now
  | .withdraw_membership user membership_id now => withdraw db user membership_id now
  | .remove_membership user membership_id reason now => remove db user membership_id reason now
  | .update_release user release_id data =>
    (update_release db.statuses release_id data user.active_tenant_id).map fun s =>
      { db with statuses := s }
  | .statuses request =>
    (Statuses.handle ext db.statuses request).map fun s => { db with statuses := s }

def step (ext : Bookings.External) (db : Db) (request : Request) : Db :=
  commit_or_rollback db (handle ext db request)

end EnvMgr.Memberships
