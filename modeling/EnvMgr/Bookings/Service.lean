/-
`booking_service.py`: the overlap guard, the single-environment create path with
its recurrences, the two deletes, and the date overrides of one booking.
-/
import EnvMgr.Bookings.CustomFields
import Mathlib.Data.String.Basic

namespace EnvMgr.Bookings

open Decommission (assert_bookable)

/-! ## Shared with the request service -/

def _may_set_protection (user : CurrentUser) : Prop :=
  user.role ∈ [Role.ADMIN, Role.RELEASE_MANAGER] ∨ user.is_master_admin = true
  deriving Decidable

/-- The permission guards a change, not a mention. -/
def assert_may_set_protection (user : CurrentUser) (submitted : Option ProtectionLevel)
    (current : ProtectionLevel) : Except Raised Unit :=
  raise_if (submitted ≠ none ∧ submitted ≠ some current ∧ ¬ _may_set_protection user)
    (http 403 "Only an Admin or Release Manager may change a booking's protection level")

/-! ## The overlap guard -/

structure OverlapResult where
  blocked : Bool
  conflicts : List ℕ
  warnings : List ℕ
  deriving DecidableEq

/-- The bookings of `env_id` that overlap `[start, end)`. -/
def overlapping_rows (db : Db) (env_id : ℕ) (window : Interval DateTime) (tenant_id : ℕ)
    (exclude_id : Option ℕ) : List Booking :=
  db.bookings.select fun b =>
    b.environment_id = env_id ∧ b.tenant_id = tenant_id ∧ b.deleted_at = none ∧
      b.status ≠ "rejected" ∧ b.interval.Overlaps window ∧ some b.id ≠ exclude_id

def check_overlap (db : Db) (env_id : ℕ) (window : Interval DateTime) (tenant_id : ℕ)
    (exclusive_use : Bool) (exclude_id : Option ℕ) : OverlapResult :=
  let overlapping := overlapping_rows db env_id window tenant_id exclude_id
  if overlapping = [] then ⟨false, [], []⟩
  else if exclusive_use = true ∨ ∃ b ∈ overlapping, exclusive db b = true then
    ⟨true, overlapping.map Booking.id, []⟩
  else ⟨false, [], overlapping.map Booking.id⟩

/-! ## Creating a booking -/

/-- The starts of the later occurrences; the booking itself is the first. -/
def occurrences (ext : External) (data : BookingCreate) : Except Raised (List DateTime) :=
  match data.recurrence_rule with
  | none => .ok []
  | some rule =>
    if rule = "" then .ok []
    else
      match ext.rrule_between rule data.start_date data.start_date
        (data.start_date + timedelta.days 365) with
      | .error exc => .error (http 422 s!"Invalid recurrence rule: {exc}")
      | .ok dates => .ok (dates.take 100)

/-- The window of the occurrence that starts at `dt`. -/
def BookingCreate.occurrence (data : BookingCreate) (dt : DateTime) : Interval DateTime :=
  ⟨dt, dt + (data.end_date - data.start_date)⟩

def BookingCreate.window (data : BookingCreate) : Interval DateTime :=
  ⟨data.start_date, data.end_date⟩

/-- `max([data.end_date] + [dt + duration for dt in occurrences])`. -/
def furthest_end (data : BookingCreate) (dates : List DateTime) : DateTime :=
  (dates.map fun dt => (data.occurrence dt).stop).foldl max data.end_date

/-- The booking type of the caller's tenant, if it has not been deleted. -/
def live_booking_type (db : Db) (booking_type_id tenant_id : ℕ) : Option BookingType :=
  db.reference.booking_types.find? fun t =>
    t.id = booking_type_id ∧ t.tenant_id = tenant_id ∧ t.deleted_at = none

/-- The custom fields that the initial state of the type's template shows. -/
def visible_cf_keys (db : Db) (booking_type : Option BookingType) : Option (List String) := do
  let type ← booking_type
  let template ← db.reference.templates.find? fun t =>
    t.id = type.lifecycle_template_id ∧ t.deleted_at = none
  let initial_state ← template.definition.states.find? fun s => s.is_initial
  let state_perm := template.definition.field_permissions.get initial_state.key
  some ((state_perm.map StatePermissions.custom_fields).getD [])

def BookingCreate.context (data : BookingCreate) : ContextTag :=
  if data.context_tag.getD .none ≠ .none then data.context_tag.getD .none
  else if data.release_id.isSome then .deployment
  else if data.test_phase_id.isSome then .regression
  else .none

def BookingCreate.request_row (data : BookingCreate) (user : CurrentUser)
    (protection_level : ProtectionLevel) (id : ℕ) : BookingRequest where
  id := id
  tenant_id := user.active_tenant_id
  project_name := data.project_name
  project_id := none
  booking_type_id := data.booking_type_id
  start_date := data.start_date
  end_date := data.end_date
  notes := data.notes
  context_tag := data.context
  exclusive_use_requested := data.exclusive_use
  protection_level := protection_level
  custom_fields := data.custom_fields
  booked_by := user.id
  delegate_user_ids := none
  deleted_at := none

/-- One booking of the series: the parent carries the rule, the others point at
the parent. -/
def BookingCreate.booking_row (data : BookingCreate) (user : CurrentUser) (request_id : ℕ)
    (window : Interval DateTime) (rule : Option String) (parent : Option ℕ) (id : ℕ) :
    Booking where
  id := id
  tenant_id := user.active_tenant_id
  booking_request_id := request_id
  environment_id := data.environment_id
  environment_group_id := none
  start_date := window.start
  end_date := window.stop
  status := "draft"
  recurrence_rule := rule
  recurrence_parent_id := parent
  release_id := data.release_id
  test_phase_id := data.test_phase_id
  deleted_at := none

/-- The rows of the series, parent first. -/
def BookingCreate.series (data : BookingCreate) (user : CurrentUser) (request_id parent_id : ℕ)
    (dates : List DateTime) : List (Table.New Booking.id) :=
  ⟨data.booking_row user request_id data.window data.recurrence_rule none, fun _ => rfl⟩ ::
    dates.map fun dt =>
      ⟨data.booking_row user request_id (data.occurrence dt) none (some parent_id),
        fun _ => rfl⟩

/-- The bookings made and the warnings about shared ones. The teardown date is
checked against the furthest occurrence, the overlap against the first. -/
def create_booking (ext : External) (db : Db) (data : BookingCreate) (user : CurrentUser)
    (now : DateTime) : Except Raised (Db × List ℕ) := do
  let dates ← occurrences ext data
  assert_bookable db.estate user.active_tenant_id [data.environment_id] data.start_date
    (some (furthest_end data dates))
  let overlap := check_overlap db data.environment_id data.window user.active_tenant_id
    data.exclusive_use none
  raise_if (overlap.blocked = true)
    (.HTTPException 409 (.conflicts "Exclusive booking conflict" overlap.conflicts))
  let booking_type := live_booking_type db data.booking_type_id user.active_tenant_id
  validate_custom_fields db user.active_tenant_id "booking" data.custom_fields
    (visible_cf_keys db booking_type)
  let inherited_protection := (booking_type.map BookingType.default_protection_level).getD .soft
  assert_may_set_protection user data.protection_level inherited_protection
  let protection_level := data.protection_level.getD inherited_protection
  -- the foreign keys of the two inserts
  raise_if (¬ ∃ t ∈ db.reference.booking_types, t.id = data.booking_type_id) .IntegrityError
  raise_if (¬ ∃ e ∈ db.estate.environments, e.id = data.environment_id) .IntegrityError
  let parent_id := db.bookings.next
  .ok ({ db with
    requests := db.requests.insert ⟨data.request_row user protection_level, fun _ => rfl⟩
    bookings := db.bookings.insert_all (data.series user db.requests.next parent_id dates)
    history := db.history.insert
      ⟨fun id => ⟨id, parent_id, none, "draft", user.id, now⟩, fun _ => rfl⟩ },
    overlap.warnings)

/-! ## Deleting -/

def set_deleted (now : DateTime) : Table.Edit Booking.id where
  apply b := { b with deleted_at := some now }
  key_apply _ := rfl

/-- The owner, or somebody who may delete anybody's bookings. -/
def may_delete (db : Db) (booking : Booking) (user : CurrentUser) : Prop :=
  (booking_request db booking).map BookingRequest.booked_by = some user.id ∨
    user.is_master_admin = true ∨ user.role ∈ ["Admin", "Release Manager"]
  deriving Decidable

def delete_occurrence (db : Db) (booking_id : ℕ) (user : CurrentUser) (now : DateTime) :
    Except Raised Db := do
  let booking ← get_booking db booking_id user.active_tenant_id
  raise_if (¬ may_delete db booking user)
    (http 403 "You do not have permission to delete this booking occurrence")
  .ok { db with bookings := db.bookings.update (fun b => b.id = booking.id) (set_deleted now) }

/-- The root of a booking's series. -/
def series_root (db : Db) (booking : Booking) (tenant_id : ℕ) : Except Raised Booking :=
  match booking.recurrence_parent_id with
  | some parent_id => get_booking db parent_id tenant_id
  | none => .ok booking

/-- The series goes by its root; once that is deleted it cannot be reached. -/
def delete_series (db : Db) (booking_id : ℕ) (user : CurrentUser) (now : DateTime) :
    Except Raised Db := do
  let booking ← get_booking db booking_id user.active_tenant_id
  raise_if (¬ may_delete db booking user)
    (http 403 "You can only delete your own booking series")
  let root ← series_root db booking user.active_tenant_id
  .ok { db with
    bookings := db.bookings.update
      (fun b => b.id = root.id ∨ (b.recurrence_parent_id = some root.id ∧ b.deleted_at = none))
      (set_deleted now) }

/-! ## The dates of one booking -/

def ALLOWED_ENV_OVERRIDES : List String := ["start_date", "end_date"]

def _template_for_booking_or_none (db : Db) (booking : Booking) : Option LifecycleTemplate := do
  let request ← booking_request db booking
  let type ← db.reference.booking_types.find? fun t => t.id = request.booking_type_id
  db.reference.templates.find? fun t => t.id = type.lifecycle_template_id

/-- The standard fields that a role may edit in a state. -/
def get_standard_field_permissions (definition : LifecycleDefinition)
    (state_key user_role : String) : List String :=
  match definition.field_permissions.get state_key with
  | none => []
  | some perm => (perm.standard_fields.items.filter fun i => user_role ∈ i.2).map Prod.fst

/-- What an override becomes before it is assigned. -/
inductive ColumnValue
  | null
  | datetime (t : DateTime)
  | other
  deriving DecidableEq

/-- A string is read as an ISO-8601 datetime; anything else stays what it is. -/
def coerced (ext : External) : Json → Option ColumnValue
  | .text s => (ext.fromisoformat (replace_char s 'Z' "+00:00")).map .datetime
  | .null => some .null
  | _ => some .other

/-- The override of a column, if it was sent. -/
def override (ext : External) (values : Dict Json) (col_name : String) : Option ColumnValue :=
  (values.get col_name).bind (coerced ext)

/-- The date a column holds after the assignment of an override. -/
def ColumnValue.stored (new : Option ColumnValue) (current : DateTime) : DateTime :=
  match new with
  | some (.datetime t) => t
  | _ => current

/-- The teardown check of an edit; an edit of nothing makes none. -/
def assert_override_bookable (db : Db) (booking : Booking) (user : CurrentUser)
    (values : Dict Json) (new_start new_end : Option ColumnValue) : Except Raised Unit :=
  if values.items = [] then .ok ()
  else do
    -- comparing against a number or a list
    raise_if (new_end = some .other) .AttributeError
    assert_bookable db.estate user.active_tenant_id [booking.environment_id]
      (ColumnValue.stored new_start booking.start_date)
      (if new_end = some .null then none
        else some (ColumnValue.stored new_end booking.end_date))

def set_dates (new_start new_end : Option ColumnValue) : Table.Edit Booking.id where
  apply b :=
    { b with
      start_date := ColumnValue.stored new_start b.start_date
      end_date := ColumnValue.stored new_end b.end_date }
  key_apply _ := rfl

def update_standard_fields (ext : External) (db : Db) (booking_id : ℕ) (values : Dict Json)
    (user : CurrentUser) : Except Raised Db := do
  let unknown := order_by id (values.keys.filter fun k => k ∉ ALLOWED_ENV_OVERRIDES)
  raise_if (unknown ≠ [])
    (http 400 ("Fields " ++ py_repr_list unknown ++ " are no longer editable on a booking; "
      ++ "use PATCH /booking-requests/\x7bid\x7d/standard-fields instead"))
  let booking ← get_booking db booking_id user.active_tenant_id
  let editable_perm_keys := match _template_for_booking_or_none db booking with
    | none => []
    | some template =>
      get_standard_field_permissions template.definition booking.status user.role
  for_each values.keys fun col_name =>
    raise_if (col_name ∉ editable_perm_keys)
      (http 403 (s!"Field '{col_name}' is not editable in state '{booking.status}'"
        ++ " for your role"))
  for_each values.items fun i =>
    raise_if (coerced ext i.2 = none) (http 400 s!"Invalid ISO-8601 datetime for {i.1}")
  let new_start := override ext values "start_date"
  let new_end := override ext values "end_date"
  assert_override_bookable db booking user values new_start new_end
  -- neither column is nullable, and both hold datetimes
  raise_if (new_start = some .null ∨ new_end = some .null) .IntegrityError
  raise_if (new_start = some .other) .StatementError
  .ok { db with
    bookings := db.bookings.update (fun b => b.id = booking.id) (set_dates new_start new_end) }

end EnvMgr.Bookings
