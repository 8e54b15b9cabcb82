/-
Bookings, releases and change requests together with the templates they run on.

Each of the three keeps its status in a plain text column; which statuses exist is
what its lifecycle template says. Here are the tables that any of the services
involved writes, with the templates and the bookings as those services have them.
-/
import EnvMgr.Bookings.Effects
import EnvMgr.Lifecycle.Default

namespace EnvMgr.Statuses

open Bookings (Booking BookingRequest BookingType Json ProtectionLevel)
open Lifecycle (Definition LifecycleTemplate StateEntry)

/-! ## Tables -/

structure Release where
  id : ℕ
  tenant_id : ℕ
  name : String
  description : Option String
  release_type : String
  release_kind : String
  owning_project_id : Option ℕ
  operations_group_id : Option ℕ
  template_id : Option ℕ
  lifecycle_template_id : ℕ
  status : String
  target_date : Option DateTime
  actual_date : Option DateTime
  scope_deadline : Option DateTime
  custom_fields : Option (Dict Json)
  raised_by : ℕ
  handover_confirmed_at : Option DateTime
  deleted_at : Option DateTime

structure ChangeRequest where
  id : ℕ
  tenant_id : ℕ
  title : String
  description : Option String
  change_type : String
  status : String
  lifecycle_id : ℕ
  subsystem_id : Option ℕ
  release_id : Option ℕ
  has_outage : Bool
  outage_start : Option DateTime
  outage_end : Option DateTime
  scheduled_start : DateTime
  scheduled_end : DateTime
  custom_fields : Option (Dict Json)
  raised_by : ℕ
  deleted_at : Option DateTime

structure Build where
  id : ℕ
  tenant_id : ℕ
  subsystem_id : ℕ
  release_id : Option ℕ
  git_sha : String
  build_number : String
  deleted_at : Option DateTime

structure Deployment where
  id : ℕ
  tenant_id : ℕ
  build_id : ℕ
  environment_id : ℕ
  release_id : Option ℕ
  change_request_id : ℕ
  event_id : String
  deployer_name : Option String
  deployed_at : DateTime
  completed_at : Option DateTime
  status : String
  custom_fields : Dict Json

structure System where
  id : ℕ
  tenant_id : ℕ
  name : String
  deleted_at : Option DateTime

structure SubSystem where
  id : ℕ
  tenant_id : ℕ
  system_id : ℕ
  name : String
  deleted_at : Option DateTime

structure InfrastructureComponent where
  id : ℕ
  tenant_id : ℕ
  deleted_at : Option DateTime

structure PIR where
  release_id : ℕ
  tenant_id : ℕ
  status : String
  deleted_at : Option DateTime

/-- The rows that releases and change requests read and never write. -/
structure Reference where
  user_groups : List UserGroup
  systems : List System
  subsystems : List SubSystem
  hosts : List InfrastructureComponent
  pirs : List PIR

/-- The booking types and templates that `bookings` holds are not used: the booking
services read those of the two tables here (`Db.seen`). -/
structure Db where
  templates : Table LifecycleTemplate LifecycleTemplate.id
  booking_types : Table BookingType BookingType.id
  bookings : Bookings.Db
  releases : Table Release Release.id
  change_requests : Table ChangeRequest ChangeRequest.id
  builds : Table Build Build.id
  deployments : Table Deployment Deployment.id
  reference : Reference

/-- Templates and booking types as they were seeded, and nothing that runs on them. -/
def Db.seeded (templates : Table LifecycleTemplate LifecycleTemplate.id)
    (booking_types : Table BookingType BookingType.id)
    (environments : Table Environment Environment.id) (rows : Bookings.Reference)
    (reference : Reference) : Db where
  templates := templates
  booking_types := booking_types
  bookings := Bookings.Db.fresh environments rows
  releases := Table.empty
  change_requests := Table.empty
  builds := Table.empty
  deployments := Table.empty
  reference := reference

/-! ## What each service sees -/

/-- A definition, as far as the booking services read it. -/
def booking_definition (definition : Definition) : Bookings.LifecycleDefinition where
  states := definition.states.map fun s => ⟨s.key, s.flag "is_initial"⟩
  field_permissions := definition.field_permissions.map fun p =>
    ⟨p.standard_fields.getD Dict.empty, (p.custom_fields.getD Dict.empty).keys⟩

def booking_template (t : LifecycleTemplate) : Bookings.LifecycleTemplate :=
  ⟨t.id, booking_definition t.definition, t.deleted_at⟩

/-- The database of the booking services. -/
def Db.seen (db : Db) : Bookings.Db :=
  { db.bookings with
    reference := { db.bookings.reference with
      booking_types := db.booking_types.rows
      templates := db.templates.rows.map booking_template } }

/-- The database of the lifecycle service. -/
def Db.lifecycle (db : Db) : Lifecycle.Db where
  templates := db.templates
  booking_types := db.booking_types.rows.map fun b =>
    ⟨b.id, b.tenant_id, b.lifecycle_template_id, b.deleted_at⟩

/-! ## Requests -/

structure BookingTypeCreate where
  lifecycle_template_id : ℕ
  default_protection_level : ProtectionLevel

structure BookingTypeUpdate where
  lifecycle_template_id : Option ℕ
  default_protection_level : Option ProtectionLevel

structure ReleaseCreate where
  name : String
  description : Option String
  release_type : String
  release_kind : String
  owning_project_id : Option ℕ
  operations_group_id : Option ℕ
  template_id : Option ℕ
  lifecycle_template_id : Option ℕ
  target_date : Option DateTime
  scope_deadline : Option DateTime
  custom_fields : Option (Dict Json)

/-- The schema's own validator has run: the type is one of `VALID_CHANGE_TYPES`, and
the ends lie after the starts. -/
structure ChangeRequestCreate where
  title : String
  description : Option String
  change_type : String
  lifecycle_id : ℕ
  subsystem_id : Option ℕ
  environment_ids : List ℕ
  host_ids : List ℕ
  release_id : Option ℕ
  has_outage : Bool
  outage_start : Option DateTime
  outage_end : Option DateTime
  scheduled_start : DateTime
  scheduled_end : DateTime
  custom_fields : Option (Dict Json)

structure BuildPayload where
  git_sha : String
  build_number : String
  custom_fields : Dict Json

structure DeploymentWebhookPayload where
  event_id : String
  system_slug : String
  subsystem_slug : String
  environment_slug : String
  status : String
  deployed_at : DateTime
  release_id : Option ℕ
  change_request_id : Option ℕ
  deployer_name : Option String
  build : BuildPayload
  deployment_custom_fields : Dict Json

end EnvMgr.Statuses
