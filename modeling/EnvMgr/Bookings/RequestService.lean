/-
`booking_request_service.py`: requests over several environments and groups, the
environments added to one later, and the edit of a request whose dates cascade
onto its bookings. Over these and the booking service, the routes as one step
function.
-/
import EnvMgr.Bookings.ConflictService
import EnvMgr.Bookings.Service

namespace EnvMgr.Bookings

open Decommission (assert_bookable)

/-! ## Look-ups in other services -/

/-- `environment_group_service.get_group`. -/
def get_group (db : Db) (group_id tenant_id : ℕ) : Except Raised EnvironmentGroup :=
  get_or_raise
    (db.reference.groups.find? fun g =>
      g.id = group_id ∧ g.tenant_id = tenant_id ∧ g.deleted_at = none)
    (http 404 "Environment group not found")

/-- `environment_group_service.live_member_ids`. -/
def live_member_ids (db : Db) (group_id tenant_id : ℕ) : List ℕ :=
  (db.reference.group_members.filter fun m =>
    m.group_id = group_id ∧ m.tenant_id = tenant_id ∧ m.deleted_at = none ∧
      ∃ e ∈ db.estate.environments, e.id = m.environment_id ∧ e.tenant_id = tenant_id ∧
        e.deleted_at = none).map EnvironmentGroupMember.environment_id

/-- `project_service.get_project`. -/
def get_project (db : Db) (project_id tenant_id : ℕ) : Except Raised Project :=
  get_or_raise
    (db.reference.projects.find? fun p =>
      p.id = project_id ∧ p.tenant_id = tenant_id ∧ p.deleted_at = none)
    (http 404 "Project not found")

def _get_request (db : Db) (request_id tenant_id : ℕ) : Except Raised BookingRequest :=
  get_or_raise
    (db.requests.select_one fun r => r.id = request_id ∧ r.tenant_id = tenant_id)
    (http 404 "Request not found")

def _load_initial_state (db : Db) (booking_type_id tenant_id : ℕ) : Except Raised String := do
  let type ← get_or_raise
    (db.reference.booking_types.find? fun t =>
      t.id = booking_type_id ∧ t.tenant_id = tenant_id)
    (http 400 "Unknown booking_type_id")
  let template ← get_or_raise
    (db.reference.templates.find? fun t => t.id = type.lifecycle_template_id) .NoResultFound
  let state ← get_or_raise (template.definition.states.find? fun s => s.is_initial)
    (http 400 "Lifecycle has no initial state")
  .ok state.key

/-! ## Creating a request -/

/-- An environment on its way into a request: the group it came with, and the
label of whatever put it there. -/
structure Placed where
  environment_id : ℕ
  environment_group_id : Option ℕ
  origin : String

/-- The members of one group, each of which must be new. -/
def place_members (group : EnvironmentGroup) : List ℕ → List Placed → Except Raised (List Placed)
  | [], placed => .ok placed
  | env_id :: members, placed =>
    match placed.find? fun p => p.environment_id = env_id with
    | some p => .error
      (http 400 (s!"{p.origin} and environment group '{group.name}' both "
        ++ "contain the same environment; an environment can appear "
        ++ "only once on a request"))
    | none => place_members group members
      (placed ++ [⟨env_id, some group.id, s!"environment group '{group.name}'"⟩])

def place_groups (db : Db) (tenant_id : ℕ) : List ℕ → List Placed → Except Raised (List Placed)
  | [], placed => .ok placed
  | group_id :: group_ids, placed => do
    let group ← get_group db group_id tenant_id
    let members := live_member_ids db group_id tenant_id
    -- refused by name, not as a silently partial request
    raise_if (members = []) (http 400 s!"Environment group '{group.name}' has no environments")
    let placed ← place_members group members placed
    place_groups db tenant_id group_ids placed

/-- The environments of a request, hand-picked first. -/
def place_environments (db : Db) (tenant_id : ℕ) (env_ids group_ids : List ℕ) :
    Except Raised (List Placed) := do
  raise_if (¬ env_ids.Nodup) (http 400 "environment_ids must be unique")
  raise_if (¬ group_ids.Nodup) (http 400 "environment_group_ids must be unique")
  let placed ← place_groups db tenant_id group_ids
    (env_ids.map fun e => ⟨e, none, "the environments you picked"⟩)
  raise_if (placed = [])
    (http 400 "At least one environment_id or environment_group_id is required")
  let ids := placed.map Placed.environment_id
  let envs := db.estate.environments.select fun e => e.id ∈ ids ∧ e.tenant_id = tenant_id
  raise_if (envs.length ≠ ids.length) (http 400 "One or more environment_ids not found")
  .ok placed

def BookingRequestCreate.row (data : BookingRequestCreate) (tenant_id : ℕ) (user : CurrentUser)
    (context_tag : ContextTag) (protection_level : ProtectionLevel) (id : ℕ) :
    BookingRequest where
  id := id
  tenant_id := tenant_id
  project_name := data.project_name
  project_id := data.project_id
  booking_type_id := data.booking_type_id
  start_date := data.start_date
  end_date := data.end_date
  notes := data.notes
  context_tag := context_tag
  exclusive_use_requested := data.exclusive_use_requested
  protection_level := protection_level
  custom_fields := data.custom_fields
  booked_by := user.id
  delegate_user_ids := data.delegate_user_ids
  deleted_at := none

/-- A booking made as the child of a request. -/
def child_row (tenant_id request_id environment_id : ℕ) (group_id : Option ℕ)
    (window : Interval DateTime) (status : String) : Table.New Booking.id where
  row id := {
    id := id
    tenant_id := tenant_id
    booking_request_id := request_id
    environment_id := environment_id
    environment_group_id := group_id
    start_date := window.start
    end_date := window.stop
    status := status
    recurrence_rule := none
    recurrence_parent_id := none
    release_id := none
    test_phase_id := none
    deleted_at := none }
  key_row _ := rfl

/-- The children of a new request, one for each environment. -/
def BookingRequestCreate.children (data : BookingRequestCreate) (tenant_id request_id : ℕ)
    (placed : List Placed) (initial_state : String) : List (Table.New Booking.id) :=
  placed.map fun p =>
    child_row tenant_id request_id p.environment_id p.environment_group_id
      ⟨data.start_date, data.end_date⟩ initial_state

/-- `detected[c.id] = others` for the children that have any. -/
def detect_conflicts (db : Db) (child_ids : List ℕ) (tenant_id : ℕ) :
    List (ℕ × List Booking) :=
  child_ids.filterMap fun id =>
    let others := list_conflicts db id tenant_id
    if others = [] then none else some (id, others)

def create_request (db : Db) (data : BookingRequestCreate) (user : CurrentUser)
    (tenant_id : ℕ) : Except Raised (Db × List (ℕ × List Booking)) := do
  let placed ← place_environments db tenant_id data.environment_ids data.environment_group_ids
  assert_bookable db.estate tenant_id (placed.map Placed.environment_id) data.start_date
    (some data.end_date)
  let initial_state ← _load_initial_state db data.booking_type_id tenant_id
  let booking_type := db.reference.booking_types.find? fun t =>
    t.id = data.booking_type_id ∧ t.tenant_id = tenant_id
  let inherited_protection := (booking_type.map BookingType.default_protection_level).getD .soft
  assert_may_set_protection user data.protection_level inherited_protection
  let protection_level := data.protection_level.getD inherited_protection
  for_each data.project_id.toList fun project_id =>
    get_project db project_id tenant_id >>= fun _ => .ok ()
  let context_tag ← ContextTag.ofValue data.context_tag
  let made : Db := { db with
    requests := db.requests.insert
      ⟨data.row tenant_id user context_tag protection_level, fun _ => rfl⟩
    bookings := db.bookings.insert_all
      (data.children tenant_id db.requests.next placed initial_state) }
  let child_ids := (List.range placed.length).map fun i => db.bookings.next + i
  .ok (made, detect_conflicts made child_ids tenant_id)

/-! ## Environments of an existing request -/

/-- The dates of an added environment: its own where given, else the request's. -/
def AddEnvironmentRequest.window (data : AddEnvironmentRequest) (req : BookingRequest) :
    Interval DateTime :=
  ⟨data.start_date.getD req.start_date, data.end_date.getD req.end_date⟩

def add_environment (db : Db) (request_id : ℕ) (data : AddEnvironmentRequest)
    (tenant_id : ℕ) : Except Raised Db := do
  let req ← _get_request db request_id tenant_id
  raise_if (¬ ∃ e ∈ db.estate.environments, e.id = data.environment_id ∧ e.tenant_id = tenant_id)
    (http 404 "Environment not found")
  let existing := db.bookings.select fun b =>
    b.booking_request_id = req.id ∧ b.environment_id = data.environment_id ∧ b.deleted_at = none
  -- a recurring request holds several bookings of one environment
  raise_if (1 < existing.length) .MultipleResultsFound
  raise_if (existing ≠ []) (http 400 "Environment already in request")
  assert_bookable db.estate tenant_id [data.environment_id] (data.window req).start
    (some (data.window req).stop)
  let initial_state ← _load_initial_state db req.booking_type_id tenant_id
  .ok { db with
    bookings := db.bookings.insert
      (child_row tenant_id req.id data.environment_id none (data.window req) initial_state) }

def remove_environment (db : Db) (request_id booking_id tenant_id : ℕ) (now : DateTime) :
    Except Raised Db := do
  let req ← _get_request db request_id tenant_id
  let child ← get_or_raise
    (db.bookings.select_one fun b =>
      b.id = booking_id ∧ b.booking_request_id = req.id ∧ b.tenant_id = tenant_id)
    (http 404 "Environment booking not found in request")
  .ok { db with bookings := db.bookings.update (fun b => b.id = child.id) (set_deleted now) }

/-! ## Editing a request -/

/-- What the assignment loop leaves on the request. -/
def BookingRequestUpdate.write (values : BookingRequestUpdate) (context_tag : ContextTag) :
    Table.Edit BookingRequest.id where
  apply r :=
    { r with
      project_name := values.project_name.set_required r.project_name
      project_id := values.project_id.set_nullable r.project_id
      booking_type_id := values.booking_type_id.set_required r.booking_type_id
      start_date := values.start_date.set_required r.start_date
      end_date := values.end_date.set_required r.end_date
      notes := values.notes.set_nullable r.notes
      context_tag := context_tag
      exclusive_use_requested :=
        values.exclusive_use_requested.set_required r.exclusive_use_requested
      delegate_user_ids := values.delegate_user_ids.set_nullable r.delegate_user_ids
      protection_level := values.protection_level.set_required r.protection_level }
  key_apply _ := rfl

/-- The cascade: a child takes the dates that were sent and keeps the others. -/
def BookingRequestUpdate.cascade (values : BookingRequestUpdate) : Table.Edit Booking.id where
  apply b :=
    { b with
      start_date := values.start_date.set_required b.start_date
      end_date := values.end_date.set_required b.end_date }
  key_apply _ := rfl

/-- The non-deleted bookings of a request. -/
def live_children (db : Db) (request_id : ℕ) : List Booking :=
  db.bookings.select fun b => b.booking_request_id = request_id ∧ b.deleted_at = none

/-- The teardown check of an edit that mentions a date. -/
def assert_cascade_bookable (db : Db) (req : BookingRequest) (values : BookingRequestUpdate)
    (tenant_id : ℕ) : Except Raised Unit :=
  if values.start_date.mentioned = true ∨ values.end_date.mentioned = true then
    assert_bookable db.estate tenant_id ((live_children db req.id).map Booking.environment_id)
      (values.start_date.set_required req.start_date) (values.end_date.get req.end_date)
  else .ok ()

/-- A project that is newly assigned has to exist; the stored one may have been
archived since. -/
def assert_project (db : Db) (req : BookingRequest) (values : BookingRequestUpdate)
    (tenant_id : ℕ) : Except Raised Unit :=
  match values.project_id with
  | .value project_id =>
    if req.project_id = some project_id then .ok ()
    else get_project db project_id tenant_id >>= fun _ => .ok ()
  | _ => .ok ()

def assert_protection (req : BookingRequest) (values : BookingRequestUpdate)
    (user : CurrentUser) : Except Raised Unit :=
  match values.protection_level with
  | .omitted => .ok ()
  | .null => .error (http 422 "protection_level cannot be null")
  | .value level => assert_may_set_protection user (some level) req.protection_level

/-- The tag the request ends up with; a null only fails when it is flushed. -/
def new_context_tag (req : BookingRequest) (values : BookingRequestUpdate) :
    Except Raised ContextTag :=
  match values.context_tag with
  | .value tag => ContextTag.ofValue tag
  | _ => .ok req.context_tag

/-- `booking_request_service.update_standard_fields`. -/
def update_request_standard_fields (db : Db) (request_id : ℕ) (values : BookingRequestUpdate)
    (user : CurrentUser) (tenant_id : ℕ) : Except Raised Db := do
  let req ← _get_request db request_id tenant_id
  assert_project db req values tenant_id
  assert_protection req values user
  assert_cascade_bookable db req values tenant_id
  let context_tag ← new_context_tag req values
  -- columns that are not nullable, and the foreign key
  raise_if
    (values.project_name = .null ∨ values.booking_type_id = .null ∨ values.start_date = .null ∨
      values.end_date = .null ∨ values.context_tag = .null ∨
      values.exclusive_use_requested = .null) .IntegrityError
  raise_if
    (values.booking_type_id.mentioned = true ∧ ¬ ∃ t ∈ db.reference.booking_types,
      t.id = values.booking_type_id.set_required req.booking_type_id) .IntegrityError
  .ok { db with
    requests := db.requests.update (fun r => r.id = req.id) (values.write context_tag)
    bookings := db.bookings.update
      (fun b => b.booking_request_id = req.id ∧ b.deleted_at = none) values.cascade }

/-! ## The routes -/

/-- What a transition writes on a booking. -/
def set_status (to_state : String) : Table.Edit Booking.id where
  apply b := { b with status := to_state }
  key_apply _ := rfl

/-- A request, with the clock it reads. The last three are what other services
do: the lifecycle moves a booking to whatever state its template allows, the
estate changes through the decommission service's own events, and the reference
rows change at will. -/
inductive Event
  | create_booking (user : CurrentUser) (data : BookingCreate) (now : DateTime)
  | delete_occurrence (user : CurrentUser) (booking_id : ℕ) (now : DateTime)
  | delete_series (user : CurrentUser) (booking_id : ℕ) (now : DateTime)
  | update_standard_fields (user : CurrentUser) (booking_id : ℕ) (values : Dict Json)
  | create_request (user : CurrentUser) (data : BookingRequestCreate)
  | add_environment (user : CurrentUser) (request_id : ℕ) (data : AddEnvironmentRequest)
  | remove_environment (user : CurrentUser) (request_id booking_id : ℕ) (now : DateTime)
  | update_request_standard_fields (user : CurrentUser) (request_id : ℕ)
      (values : BookingRequestUpdate)
  | transition (booking_id : ℕ) (to_state : String)
  | estate (e : Decommission.Event)
  | reference (rows : Reference)

def handle (ext : External) (db : Db) : Event → Except Raised Db
  | .create_booking user data now => (create_booking ext db data user now).map Prod.fst
  | .delete_occurrence user booking_id now => delete_occurrence db booking_id user now
  | .delete_series user booking_id now => delete_series db booking_id user now
  | .update_standard_fields user booking_id values =>
    update_standard_fields ext db booking_id values user
  | .create_request user data =>
    (create_request db data user user.active_tenant_id).map Prod.fst
  | .add_environment user request_id data =>
    add_environment db request_id data user.active_tenant_id
  | .remove_environment user request_id booking_id now =>
    remove_environment db request_id booking_id user.active_tenant_id now
  | .update_request_standard_fields user request_id values =>
    update_request_standard_fields db request_id values user user.active_tenant_id
  | .transition booking_id to_state =>
    .ok { db with
      bookings := db.bookings.update (fun b => b.id = booking_id) (set_status to_state) }
  | .estate e => (Decommission.handle db.estate e).map fun s => { db with estate := s }
  | .reference rows => .ok { db with reference := rows }

def step (ext : External) (db : Db) (e : Event) : Db := commit_or_rollback db (handle ext db e)

/-! ## A small estate -/

namespace Sample

/-- Two tenants with an environment each. -/
def environments : Table Environment Environment.id :=
  Table.empty.insert_all
    [Decommission.new_environment 1 ⟨"uat", .active, none, none, none⟩,
      Decommission.new_environment 2 ⟨"uat-2", .active, none, none, none⟩]

/-- One booking type for each tenant, over one template that starts in `draft`. -/
def reference : Reference where
  booking_types := [⟨1, 1, 1, .soft, none⟩, ⟨2, 2, 1, .soft, none⟩]
  templates := [⟨1, ⟨[⟨"draft", true⟩, ⟨"closed", false⟩], Dict.empty⟩, none⟩]
  projects := []
  groups := []
  group_members := []
  custom_fields := []

/-- The rule that repeats once, a week later. -/
def weekly : String := "FREQ=WEEKLY;COUNT=2"

def ext : External where
  rrule_between rule dtstart after before :=
    if rule = weekly then
      .ok ([dtstart, dtstart + timedelta.days 7].filter fun dt => after < dt ∧ dt < before)
    else .error "unknown rule"
  fromisoformat _ := none

def admin : CurrentUser := ⟨1, 1, Role.ADMIN, false⟩

def admin2 : CurrentUser := ⟨2, 2, Role.ADMIN, false⟩

/-- A booking of the tenant's own type. -/
def booking (environment_id booking_type_id : ℕ) (start_date end_date : DateTime)
    (exclusive_use : Bool) (rule : Option String) : BookingCreate where
  environment_id := environment_id
  project_name := "release test"
  start_date := start_date
  end_date := end_date
  booking_type_id := booking_type_id
  exclusive_use := exclusive_use
  protection_level := none
  notes := none
  recurrence_rule := rule
  release_id := none
  test_phase_id := none
  context_tag := some .none
  custom_fields := none

def request (environment_ids : List ℕ) (start_date end_date : DateTime) :
    BookingRequestCreate where
  project_name := "release test"
  project_id := none
  booking_type_id := 1
  start_date := start_date
  end_date := end_date
  environment_ids := environment_ids
  environment_group_ids := []
  notes := none
  context_tag := "none"
  exclusive_use_requested := false
  protection_level := none
  custom_fields := none
  delegate_user_ids := none

end Sample

end EnvMgr.Bookings
