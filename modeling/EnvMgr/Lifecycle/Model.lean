/-
Lifecycle templates: the stored definition and the schema it is edited through.

A template row holds its state machine as JSON. Seeds, migrations and the editor
write it and the services read it key by key, so here it is what the JSON can say,
with `none` for a key that is not there. The editor sends and stores it through the
classes of `api/v1/schemas/booking_lifecycle.py`, which list the keys they know.
-/
import EnvMgr.Core.Directory
import EnvMgr.Lib.Table

namespace EnvMgr.Lifecycle

/-! ## The stored JSON -/

/-- An entry of `states`. `flags` are its keys besides these two. -/
structure StateEntry where
  key : String
  label : Option String
  flags : Dict Bool
  deriving DecidableEq

/-- `bool(s.get(name))`. -/
def StateEntry.flag (s : StateEntry) (name : String) : Bool := (s.flags.get name).getD false

structure TransitionEntry where
  from_state : Option String
  to_state : Option String
  label : Option String
  allowed_roles : Option (List String)
  deriving DecidableEq

/-- The entry of one state in `field_permissions`. A field is mapped to its
`editable_by`; a key that holds `null` counts as missing, which every reader of it
does too. -/
structure PermissionEntry where
  editable_fields : Option (List String)
  editable_by : Option (List String)
  standard_fields : Option (Dict (List String))
  custom_fields : Option (Dict (List String))
  required_fields : Option (List String)
  deriving DecidableEq

structure Definition where
  states : List StateEntry
  transitions : List TransitionEntry
  field_permissions : Dict PermissionEntry
  action_permissions : Option (Dict (Dict (List String)))
  deriving DecidableEq

/-! ## The schema -/

structure LifecycleState where
  key : String
  label : String
  is_initial : Bool
  is_terminal : Bool
  is_admission_lockdown : Bool
  is_failed : Bool
  marks_deployed : Bool
  is_closed : Bool
  requires_pir_complete : Bool
  requires_handover_confirmed : Bool
  deriving DecidableEq

structure LifecycleTransition where
  from_state : String
  to_state : String
  label : String
  allowed_roles : List String
  deriving DecidableEq

structure LifecycleFieldPermission where
  standard_fields : Dict (List String)
  custom_fields : Option (Dict (List String))
  deriving DecidableEq

/-- `validate_one_initial`: there is no other definition. -/
structure LifecycleDefinition where
  states : List LifecycleState
  transitions : List LifecycleTransition
  field_permissions : Dict LifecycleFieldPermission
  action_permissions : Option (Dict (Dict (List String)))
  one_initial : (states.filter LifecycleState.is_initial).length = 1
  deriving DecidableEq

structure LifecycleTemplateCreate where
  name : String
  description : Option String
  is_default : Bool
  entity_type : String
  applies_to_kind : Option String
  definition : LifecycleDefinition
  deriving DecidableEq

structure LifecycleTemplateUpdate where
  name : Option String
  description : Option String
  is_default : Option Bool
  applies_to_kind : Option String
  definition : Option LifecycleDefinition
  deriving DecidableEq

/-! ## Tables -/

structure LifecycleTemplate where
  id : ℕ
  tenant_id : ℕ
  entity_type : String
  name : String
  description : Option String
  is_default : Bool
  applies_to_kind : Option String
  definition : Definition
  deleted_at : Option DateTime
  deriving DecidableEq

/-- What `delete_template` reads of a booking type. -/
structure BookingType where
  id : ℕ
  tenant_id : ℕ
  lifecycle_template_id : ℕ
  deleted_at : Option DateTime
  deriving DecidableEq

/-- The booking types are written by another service. -/
structure Db where
  templates : Table LifecycleTemplate LifecycleTemplate.id
  booking_types : List BookingType

/-- A database without templates. -/
def Db.fresh : Db := ⟨Table.empty, []⟩

end EnvMgr.Lifecycle
