/-
The services that write a status: `booking_type_service.py`, the transitions of
`booking_service.py`, and the creates and transitions of `release_service.py` and
`change_request_service.py`.

A transition asks the template that governs the record whether the role may make it.
-/
import EnvMgr.Statuses.Model
import Mathlib.Data.List.Infix

namespace EnvMgr.Statuses

open Bookings (Booking BookingRequest BookingType Json)
open Lifecycle (Definition FieldValue LifecycleTemplate RecordValues StateEntry
  scalar_one_or_none validate_transition)

/-! ## Booking types -/

def BookingTypeCreate.row (data : BookingTypeCreate) (tenant_id id : ℕ) : BookingType :=
  ⟨id, tenant_id, data.lifecycle_template_id, data.default_protection_level, none⟩

def create_type (db : Db) (data : BookingTypeCreate) (tenant_id : ℕ) : Except Raised Db := do
  let _ ← Lifecycle.get_template db.lifecycle data.lifecycle_template_id tenant_id
  .ok { db with
    booking_types := db.booking_types.insert ⟨data.row tenant_id, fun _ => rfl⟩ }

def get_type (db : Db) (type_id tenant_id : ℕ) : Except Raised BookingType :=
  get_or_raise
    (db.booking_types.select_one fun b =>
      b.id = type_id ∧ b.tenant_id = tenant_id ∧ b.deleted_at = none)
    (http 404 "Booking type not found")

def delete_type (db : Db) (type_id tenant_id : ℕ) (now : DateTime) : Except Raised Db := do
  let bt ← get_type db type_id tenant_id
  .ok { db with
    booking_types := db.booking_types.update (fun b => b.id = bt.id)
      ⟨fun b => { b with deleted_at := some now }, fun _ => rfl⟩ }

def BookingTypeUpdate.write (data : BookingTypeUpdate) (b : BookingType) : BookingType :=
  { b with
    lifecycle_template_id := data.lifecycle_template_id.getD b.lifecycle_template_id
    default_protection_level := data.default_protection_level.getD b.default_protection_level }

def update_type (db : Db) (type_id : ℕ) (data : BookingTypeUpdate) (tenant_id : ℕ) :
    Except Raised Db := do
  let bt ← get_type db type_id tenant_id
  for_each data.lifecycle_template_id.toList fun template_id =>
    Lifecycle.get_template db.lifecycle template_id tenant_id >>= fun _ => .ok ()
  .ok { db with
    booking_types := db.booking_types.update (fun b => b.id = bt.id)
      ⟨data.write, fun _ => rfl⟩ }

/-! ## What a record says of itself -/

def FieldValue.of_json : Json → FieldValue
  | .null => .none
  | .text s => .text s
  | _ => .other

/-- A column that may be null. -/
def FieldValue.of_option {α : Type} : Option α → FieldValue
  | none => .none
  | some _ => .other

def FieldValue.of_text : Option String → FieldValue
  | none => .none
  | some s => .text s

/-- `values.custom_fields or {}`. -/
def custom_values (custom_fields : Option (Dict Json)) : Dict FieldValue :=
  (custom_fields.getD Dict.empty).map FieldValue.of_json

/-- `context_tag.value`. -/
def context_value : Bookings.ContextTag → String
  | .deployment => "deployment"
  | .regression => "regression"
  | .none => "none"

/-! ## Bookings -/

/-- `booking.booking_request`. -/
def request_of (db : Db) (booking : Booking) : Except Raised BookingRequest :=
  get_or_raise (Bookings.booking_request db.bookings booking) .AttributeError

/-- The template that governs a booking, through its type; deleted ones still do. -/
def _template_for_booking (db : Db) (booking : Booking) : Except Raised LifecycleTemplate := do
  let request ← request_of db booking
  let booking_type ← get_or_raise
    (db.booking_types.select_one fun b => b.id = request.booking_type_id)
    (http 404 "Booking type not found")
  get_or_raise (db.templates.select_one fun t => t.id = booking_type.lifecycle_template_id)
    (http 404 "Lifecycle template not found")

def _record_values (br : BookingRequest) : RecordValues where
  fields :=
    { items :=
        [("project_name", .text br.project_name),
          ("start_date", .other),
          ("end_date", .other),
          ("booking_type", .text (if br.booking_type_id = 0 then "" else toString br.booking_type_id)),
          ("notes", .text (br.notes.getD "")),
          ("exclusive_use", .other),
          ("context_tag", .text (context_value br.context_tag))]
      keys_nodup := by simp }
  custom_fields := custom_values br.custom_fields

/-- `sub in s`. -/
def contains (s sub : String) : Bool := sub.toList <:+: s.toList

/-- `reason and ("not allowed" in reason or "role" in reason.lower())`. -/
def role_blocked (reason : Option String) : Bool :=
  reason.any fun r =>
    contains r "not allowed" || contains (String.ofList (r.toList.map Char.toLower)) "role"

/-- The bookings with these ids move, each with an entry in its history. -/
def move_bookings (db : Db) (moving : List Booking) (to_state : String) (user : CurrentUser)
    (now : DateTime) : Db :=
  { db with
    bookings := { db.bookings with
      bookings := db.bookings.bookings.update (fun b => b.id ∈ moving.map Booking.id)
        (Bookings.set_status to_state)
      history := db.bookings.history.insert_all (moving.map fun b =>
        ⟨fun id => ⟨id, b.id, some b.status, to_state, user.id, now⟩, fun _ => rfl⟩) } }

def transition_state (db : Db) (booking_id : ℕ) (to_state : String) (user : CurrentUser)
    (now : DateTime) : Except Raised Db := do
  let booking ← Bookings.get_booking db.bookings booking_id user.active_tenant_id
  let template ← _template_for_booking db booking
  let request ← request_of db booking
  let (allowed, reason) ← validate_transition template.definition booking.status to_state
    user.role (_record_values request)
  raise_if (allowed = false ∧ role_blocked reason = true)
    (http 403 "Your role cannot make this transition")
  raise_if (allowed = false)
    (http 400 (reason.getD s!"Invalid transition: {booking.status} -> {to_state}"))
  .ok (move_bookings db [booking] to_state user now)

/-- The live bookings of a request that came with a group. -/
def _group_bookings (db : Db) (request_id group_id tenant_id : ℕ) :
    Except Raised (List Booking) := do
  let rows := order_by Booking.id (db.bookings.bookings.select fun b =>
    b.booking_request_id = request_id ∧ b.environment_group_id = some group_id ∧
      b.tenant_id = tenant_id ∧ b.deleted_at = none ∧
      ∃ r ∈ db.bookings.requests.rows, r.id = b.booking_request_id ∧ r.tenant_id = tenant_id ∧
        r.deleted_at = none)
  raise_if (rows = []) (http 404 "No bookings for that environment group on this request")
  .ok rows

/-- Why a member of the group cannot move, and whether it is for the role. -/
def check_member (db : Db) (template : LifecycleTemplate) (to_state : String) (user : CurrentUser)
    (booking : Booking) : Except Raised (Option (String × Bool)) := do
  let request ← request_of db booking
  let (allowed, reason) ← validate_transition template.definition booking.status to_state
    user.role (_record_values request)
  let environment := db.bookings.estate.environments.select_one fun e =>
    e.id = booking.environment_id
  let env_name := (environment.map Environment.name).getD (toString booking.environment_id)
  -- a missing reason is printed as Python prints it
  let printed := reason.getD "None"
  .ok (if allowed then none
    else some (s!"{env_name} (in '{booking.status}'): {printed}", role_blocked reason))

/-- Every member moves, or none does. -/
def transition_group (db : Db) (request_id group_id : ℕ) (to_state : String)
    (user : CurrentUser) (now : DateTime) : Except Raised Db := do
  let bookings ← _group_bookings db request_id group_id user.active_tenant_id
  let first ← get_or_raise bookings.head? .IndexError
  let template ← _template_for_booking db first
  let checked ← bookings.mapM (check_member db template to_state user)
  let failures := checked.filterMap id
  let joined := "; ".intercalate (failures.map Prod.fst)
  raise_if (∃ failure ∈ failures, failure.2 = true)
    (http 403 s!"Your role cannot make this transition for: {joined}")
  raise_if (failures ≠ [])
    (http 400 (s!"The group cannot move to '{to_state}' because its members "
      ++ s!"are not all able to: {joined}"))
  .ok (move_bookings db bookings to_state user now)

/-! ## Releases -/

def _get_release (db : Db) (release_id tenant_id : ℕ) : Except Raised Release :=
  get_or_raise
    (db.releases.select_one fun r =>
      r.id = release_id ∧ r.tenant_id = tenant_id ∧ r.deleted_at = none)
    (http 404 "Release not found")

def ReleaseCreate.row (data : ReleaseCreate) (tpl : LifecycleTemplate) (tenant_id user_id id : ℕ) :
    Release where
  id := id
  tenant_id := tenant_id
  name := data.name
  description := data.description
  release_type := data.release_type
  release_kind := data.release_kind
  owning_project_id := data.owning_project_id
  operations_group_id := data.operations_group_id
  template_id := data.template_id
  lifecycle_template_id := tpl.id
  status := "draft"
  target_date := data.target_date
  actual_date := none
  scope_deadline := data.scope_deadline
  custom_fields := data.custom_fields
  raised_by := user_id
  handover_confirmed_at := none
  deleted_at := none

def create_release (db : Db) (data : ReleaseCreate) (tenant_id user_id : ℕ) :
    Except Raised Db := do
  let tpl ← Lifecycle._resolve_lifecycle_template db.lifecycle data.lifecycle_template_id
    tenant_id data.release_kind
  raise_if (data.scope_deadline ≠ none ∧ data.release_kind = "enterprise")
    (http 422 "scope_deadline is only valid on project releases")
  for_each data.owning_project_id.toList fun project_id =>
    Bookings.get_project db.bookings project_id tenant_id >>= fun _ => .ok ()
  for_each data.operations_group_id.toList fun group_id =>
    get_group db.reference.user_groups group_id tenant_id >>= fun _ => .ok ()
  .ok { db with
    releases := db.releases.insert ⟨data.row tpl tenant_id user_id, fun _ => rfl⟩ }

def Release.record_values (r : Release) : RecordValues where
  fields :=
    { items :=
        [("name", .text r.name),
          ("description", FieldValue.of_text r.description),
          ("release_type", .text r.release_type),
          ("target_date", FieldValue.of_option r.target_date),
          ("actual_date", FieldValue.of_option r.actual_date),
          ("raised_by", .other)]
      keys_nodup := by simp }
  custom_fields := custom_values r.custom_fields

def state_for_key (definition : Definition) (key : String) : Option StateEntry :=
  definition.states.find? fun s => s.key = key

def PIR_INCOMPLETE : String := "the post-implementation review is not complete"

def HANDOVER_UNCONFIRMED : String := "ops handover is not confirmed"

/-- Reasons a closed state cannot be entered. -/
def unmet_requirements (state : StateEntry) (pir : Option PIR) (release : Release) : List String :=
  if state.flag "is_closed" = false then []
  else
    (if state.flag "requires_pir_complete" ∧ pir.map PIR.status ≠ some "complete" then
      [PIR_INCOMPLETE] else [])
    ++ (if state.flag "requires_handover_confirmed" ∧ release.handover_confirmed_at = none then
      [HANDOVER_UNCONFIRMED] else [])

def assert_may_close (db : Db) (release : Release) (target_state : Option StateEntry)
    (tenant_id : ℕ) : Except Raised Unit :=
  match target_state with
  | none => .ok ()
  | some state =>
    if state.flag "is_closed" = false then .ok ()
    else do
      let pir ← scalar_one_or_none (db.reference.pirs.filter fun p =>
        p.release_id = release.id ∧ p.tenant_id = tenant_id ∧ p.deleted_at = none)
      let unmet := unmet_requirements state pir release
      raise_if (unmet ≠ [])
        (http 422 ("Cannot close this release: " ++ "; ".intercalate unmet ++ "."))

/-- What a transition writes. The date is stamped when a state that `marks_deployed`
is entered for the first time. -/
def set_release_status (to_state : String) (target_state : Option StateEntry) (now : DateTime)
    (r : Release) : Release :=
  { r with
    status := to_state
    actual_date :=
      if target_state.any (fun s => s.flag "marks_deployed") ∧ r.actual_date = none then some now
      else r.actual_date }

def transition_release (db : Db) (release_id : ℕ) (to_state : String) (tenant_id : ℕ)
    (user_role : String) (now : DateTime) : Except Raised Db := do
  let release ← _get_release db release_id tenant_id
  let tpl ← get_or_raise
    (db.templates.select_one fun t =>
      t.id = release.lifecycle_template_id ∧ t.tenant_id = tenant_id)
    (http 500 "Release lifecycle template not found")
  let (allowed, reason) ← validate_transition tpl.definition release.status to_state user_role
    release.record_values
  raise_if (allowed = false) (http 400 (reason.getD ""))
  let target_state := state_for_key tpl.definition to_state
  assert_may_close db release target_state tenant_id
  .ok { db with
    releases := db.releases.update (fun r => r.id = release.id)
      ⟨set_release_status to_state target_state now, fun _ => rfl⟩ }

def delete_release (db : Db) (release_id tenant_id : ℕ) (now : DateTime) : Except Raised Db := do
  let release ← _get_release db release_id tenant_id
  .ok { db with
    releases := db.releases.update (fun r => r.id = release.id)
      ⟨fun r => { r with deleted_at := some now }, fun _ => rfl⟩ }

/-! ## Change requests -/

def ENTITY_TYPE : String := "change_request"

def _load_lifecycle (db : Db) (lifecycle_id tenant_id : ℕ) : Except Raised LifecycleTemplate :=
  get_or_raise
    (db.templates.select_one fun t =>
      t.id = lifecycle_id ∧ t.tenant_id = tenant_id ∧ t.entity_type = ENTITY_TYPE ∧
        t.deleted_at = none)
    (http 400 "lifecycle_id must refer to an active change-request lifecycle template")

def _initial_state (tpl : LifecycleTemplate) : Except Raised String := do
  let state ← get_or_raise (tpl.definition.states.find? fun s => s.flag "is_initial")
    (http 500 "Lifecycle template has no initial state")
  .ok state.key

/-- `sorted(xs)`, as an error prints it. -/
def sorted_ids (ids : List ℕ) : String :=
  "[" ++ ", ".intercalate ((order_by id ids).map toString) ++ "]"

def _validate_environments (db : Db) (environment_ids : List ℕ) (tenant_id : ℕ) :
    Except Raised Unit :=
  let found := (db.bookings.estate.environments.select fun e =>
    e.id ∈ environment_ids ∧ e.tenant_id = tenant_id ∧ e.deleted_at = none).map Environment.id
  let missing := environment_ids.filter fun id => id ∉ found
  raise_if (missing ≠ [])
    (http 400 ("environment_ids contain invalid entries: " ++ sorted_ids missing))

def _validate_hosts (db : Db) (host_ids : List ℕ) (tenant_id : ℕ) : Except Raised Unit :=
  let found := (db.reference.hosts.filter fun h =>
    h.id ∈ host_ids ∧ h.tenant_id = tenant_id ∧ h.deleted_at = none).map InfrastructureComponent.id
  let missing := host_ids.filter fun id => id ∉ found
  raise_if (missing ≠ []) (http 400 ("host_ids contain invalid entries: " ++ sorted_ids missing))

def _validate_subsystem_scope (db : Db) (subsystem_id : Option ℕ) (tenant_id : ℕ) :
    Except Raised Unit :=
  raise_if (∃ id ∈ subsystem_id.toList, ¬ ∃ s ∈ db.reference.subsystems,
      s.id = id ∧ s.tenant_id = tenant_id ∧ s.deleted_at = none)
    (http 400 "subsystem_id must refer to an active subsystem in this tenant")

def _validate_release (db : Db) (release_id : Option ℕ) (tenant_id : ℕ) : Except Raised Unit :=
  raise_if (∃ id ∈ release_id.toList, ¬ ∃ r ∈ db.releases.rows,
      r.id = id ∧ r.tenant_id = tenant_id ∧ r.deleted_at = none)
    (http 400 "release_id must refer to an active release in this tenant")

def _get_cr (db : Db) (cr_id tenant_id : ℕ) : Except Raised ChangeRequest :=
  get_or_raise
    (db.change_requests.select_one fun c =>
      c.id = cr_id ∧ c.tenant_id = tenant_id ∧ c.deleted_at = none)
    (http 404 "Change request not found")

def ChangeRequestCreate.row (data : ChangeRequestCreate) (initial_state : String)
    (tenant_id user_id id : ℕ) : ChangeRequest where
  id := id
  tenant_id := tenant_id
  title := data.title
  description := data.description
  change_type := data.change_type
  status := initial_state
  lifecycle_id := data.lifecycle_id
  subsystem_id := data.subsystem_id
  release_id := data.release_id
  has_outage := data.has_outage
  outage_start := data.outage_start
  outage_end := data.outage_end
  scheduled_start := data.scheduled_start
  scheduled_end := data.scheduled_end
  custom_fields := data.custom_fields
  raised_by := user_id
  deleted_at := none

def create_change_request (db : Db) (data : ChangeRequestCreate) (user : CurrentUser)
    (tenant_id : ℕ) : Except Raised Db := do
  let environment_ids := data.environment_ids.eraseDups
  let host_ids := data.host_ids.eraseDups
  raise_if (environment_ids = [] ∧ host_ids = [])
    (http 422 "At least one environment_ids or host_ids entry is required")
  let tpl ← _load_lifecycle db data.lifecycle_id tenant_id
  _validate_environments db environment_ids tenant_id
  _validate_hosts db host_ids tenant_id
  _validate_subsystem_scope db data.subsystem_id tenant_id
  _validate_release db data.release_id tenant_id
  let initial_state ← _initial_state tpl
  .ok { db with
    change_requests := db.change_requests.insert
      ⟨data.row initial_state tenant_id user.id, fun _ => rfl⟩ }

def ChangeRequest.record_values (cr : ChangeRequest) : RecordValues where
  fields :=
    { items :=
        [("title", .text cr.title),
          ("description", .text (cr.description.getD "")),
          ("change_type", .text cr.change_type),
          ("scheduled_start", .other),
          ("scheduled_end", .other),
          ("has_outage", .other),
          ("outage_start", FieldValue.of_option cr.outage_start),
          ("outage_end", FieldValue.of_option cr.outage_end),
          ("release_id", FieldValue.of_option cr.release_id)]
      keys_nodup := by simp }
  custom_fields := custom_values cr.custom_fields

def set_cr_status (to_state : String) : Table.Edit ChangeRequest.id where
  apply c := { c with status := to_state }
  key_apply _ := rfl

def transition_status (db : Db) (cr_id : ℕ) (to_state : String) (user : CurrentUser)
    (tenant_id : ℕ) : Except Raised Db := do
  let cr ← _get_cr db cr_id tenant_id
  let tpl ← _load_lifecycle db cr.lifecycle_id tenant_id
  let (allowed, reason) ← validate_transition tpl.definition cr.status to_state user.role
    cr.record_values
  raise_if (allowed = false)
    (http 400 (reason.getD
      s!"Transition from '{cr.status}' to '{to_state}' is not allowed for role '{user.role}'"))
  .ok { db with
    change_requests := db.change_requests.update (fun c => c.id = cr.id) (set_cr_status to_state) }

def soft_delete_change_request (db : Db) (cr_id tenant_id : ℕ) (now : DateTime) :
    Except Raised Db := do
  let cr ← _get_cr db cr_id tenant_id
  .ok { db with
    change_requests := db.change_requests.update (fun c => c.id = cr.id)
      ⟨fun c => { c with deleted_at := some now }, fun _ => rfl⟩ }

end EnvMgr.Statuses
