/-
Bookings: the tables of `booking.py`, `booking_request.py` and
`booking_lifecycle.py`, the request schemas, and the rows of other services that
bookings read.

A request (`BookingRequest`) is the claim; its bookings are the claim on one
environment each, with their own dates. A recurring booking is one request with
one booking for each occurrence, all on one environment.
-/
import EnvMgr.Decommission.Service
import EnvMgr.Lib.Interval

namespace EnvMgr.Bookings

inductive ContextTag
  | deployment
  | regression
  | none
  deriving DecidableEq

/-- `ContextTag(v)`. -/
def ContextTag.ofValue : String → Except Raised ContextTag
  | "deployment" => .ok .deployment
  | "regression" => .ok .regression
  | "none" => .ok .none
  | _ => .error .ValueError

inductive ProtectionLevel
  | soft
  | hard
  deriving DecidableEq

/-- What is told apart among the values a client puts into a JSON object. -/
inductive Json
  | null
  | bool (b : Bool)
  | number
  | text (s : String)
  | composite
  deriving DecidableEq

/-! ## Tables -/

structure BookingRequest where
  id : ℕ
  tenant_id : ℕ
  project_name : String
  project_id : Option ℕ
  booking_type_id : ℕ
  start_date : DateTime
  end_date : DateTime
  notes : Option String
  context_tag : ContextTag
  exclusive_use_requested : Bool
  protection_level : ProtectionLevel
  custom_fields : Option (Dict Json)
  booked_by : ℕ
  delegate_user_ids : Option (List ℕ)
  deleted_at : Option DateTime
  deriving DecidableEq

structure Booking where
  id : ℕ
  tenant_id : ℕ
  booking_request_id : ℕ
  environment_id : ℕ
  environment_group_id : Option ℕ
  start_date : DateTime
  end_date : DateTime
  status : String
  recurrence_rule : Option String
  recurrence_parent_id : Option ℕ
  release_id : Option ℕ
  test_phase_id : Option ℕ
  deleted_at : Option DateTime
  deriving DecidableEq

structure BookingStatusHistory where
  id : ℕ
  booking_id : ℕ
  from_state : Option String
  to_state : String
  changed_by : ℕ
  changed_at : DateTime
  deriving DecidableEq

structure BookingType where
  id : ℕ
  tenant_id : ℕ
  lifecycle_template_id : ℕ
  default_protection_level : ProtectionLevel
  deleted_at : Option DateTime

structure LifecycleState where
  key : String
  is_initial : Bool

/-- What a template lets one state edit: the roles that may edit each standard
field, and the custom fields the state shows. -/
structure StatePermissions where
  standard_fields : Dict (List String)
  custom_fields : List String

structure LifecycleDefinition where
  states : List LifecycleState
  field_permissions : Dict StatePermissions

structure LifecycleTemplate where
  id : ℕ
  definition : LifecycleDefinition
  deleted_at : Option DateTime

structure Project where
  id : ℕ
  tenant_id : ℕ
  /-- Lower wins; `none` is unranked. -/
  priority_rank : Option ℤ
  deleted_at : Option DateTime

structure EnvironmentGroup where
  id : ℕ
  tenant_id : ℕ
  name : String
  deleted_at : Option DateTime

structure EnvironmentGroupMember where
  tenant_id : ℕ
  group_id : ℕ
  environment_id : ℕ
  deleted_at : Option DateTime

structure CustomFieldDefinition where
  id : ℕ
  tenant_id : ℕ
  entity_type : String
  field_key : String
  label : String
  field_type : String
  required : Bool
  display_order : ℤ
  deleted_at : Option DateTime

/-- The rows that bookings read and never write. -/
structure Reference where
  booking_types : List BookingType
  templates : List LifecycleTemplate
  projects : List Project
  groups : List EnvironmentGroup
  group_members : List EnvironmentGroupMember
  custom_fields : List CustomFieldDefinition

structure Db where
  estate : Decommission.Estate
  reference : Reference
  requests : Table BookingRequest BookingRequest.id
  bookings : Table Booking Booking.id
  history : Table BookingStatusHistory BookingStatusHistory.id

/-- No booking yet, and no decommission. -/
def Db.fresh (environments : Table Environment Environment.id) (reference : Reference) :
    Db where
  estate := Decommission.Estate.fresh environments [] [] []
  reference := reference
  requests := Table.empty
  bookings := Table.empty
  history := Table.empty

/-! ## Requests -/

structure BookingCreate where
  environment_id : ℕ
  project_name : String
  start_date : DateTime
  end_date : DateTime
  booking_type_id : ℕ
  exclusive_use : Bool
  protection_level : Option ProtectionLevel
  notes : Option String
  recurrence_rule : Option String
  release_id : Option ℕ
  test_phase_id : Option ℕ
  context_tag : Option ContextTag
  custom_fields : Option (Dict Json)

structure BookingRequestCreate where
  project_name : String
  project_id : Option ℕ
  booking_type_id : ℕ
  start_date : DateTime
  end_date : DateTime
  environment_ids : List ℕ
  environment_group_ids : List ℕ
  notes : Option String
  context_tag : String
  exclusive_use_requested : Bool
  protection_level : Option ProtectionLevel
  custom_fields : Option (Dict Json)
  delegate_user_ids : Option (List ℕ)

structure BookingRequestUpdate where
  project_name : Sent String
  project_id : Sent ℕ
  booking_type_id : Sent ℕ
  start_date : Sent DateTime
  end_date : Sent DateTime
  notes : Sent String
  context_tag : Sent String
  exclusive_use_requested : Sent Bool
  delegate_user_ids : Sent (List ℕ)
  protection_level : Sent ProtectionLevel

structure AddEnvironmentRequest where
  environment_id : ℕ
  start_date : Option DateTime
  end_date : Option DateTime

/-- What is called from outside the repository: `dateutil`'s rules and the
parser of `datetime`. -/
structure External where
  /-- `list(rrulestr(rule, dtstart=dtstart).between(after, before, inc=False))`,
  or the text of the exception that `rrulestr` raised. -/
  rrule_between : String → DateTime → DateTime → DateTime → Except String (List DateTime)
  /-- `datetime.fromisoformat`. -/
  fromisoformat : String → Option DateTime

/-! ## Intervals and states -/

def Booking.interval (b : Booking) : Interval DateTime := ⟨b.start_date, b.end_date⟩

/-- `conflict_service.TERMINAL_STATES`. -/
def TERMINAL_STATES : List String := ["rejected", "closed"]

def get_booking (db : Db) (booking_id tenant_id : ℕ) : Except Raised Booking :=
  get_or_raise
    (db.bookings.select_one fun b =>
      b.id = booking_id ∧ b.tenant_id = tenant_id ∧ b.deleted_at = none)
    (http 404 "Booking not found")

/-- `booking.booking_request`. -/
def booking_request (db : Db) (b : Booking) : Option BookingRequest :=
  db.requests.select_one fun r => r.id = b.booking_request_id

/-- `booking.booking_request.exclusive_use_requested`. -/
def exclusive (db : Db) (b : Booking) : Bool :=
  ((booking_request db b).map BookingRequest.exclusive_use_requested).getD false

end EnvMgr.Bookings
