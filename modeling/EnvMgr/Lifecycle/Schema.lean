/-
From JSON to the schema and back, and what is checked in between.

`model_validate` and `model_dump` are pydantic's for the classes above: a key the
class does not list is ignored on the way in, and a key it lists is written on the
way out, whether it was there before or not. `validate_definition_for_entity` is the
service's own check.
-/
import EnvMgr.Lifecycle.Model
import Mathlib.Data.String.Basic

namespace EnvMgr.Lifecycle

/-! ## Reading JSON -/

def LifecycleState.model_validate (s : StateEntry) : Option LifecycleState := do
  let label ← s.label
  some
    { key := s.key
      label := label
      is_initial := s.flag "is_initial"
      is_terminal := s.flag "is_terminal"
      is_admission_lockdown := s.flag "is_admission_lockdown"
      is_failed := s.flag "is_failed"
      marks_deployed := s.flag "marks_deployed"
      is_closed := s.flag "is_closed"
      requires_pir_complete := s.flag "requires_pir_complete"
      requires_handover_confirmed := s.flag "requires_handover_confirmed" }

def LifecycleTransition.model_validate (t : TransitionEntry) : Option LifecycleTransition := do
  let from_state ← t.from_state
  let to_state ← t.to_state
  let label ← t.label
  let allowed_roles ← t.allowed_roles
  some ⟨from_state, to_state, label, allowed_roles⟩

def LifecycleFieldPermission.model_validate (p : PermissionEntry) : LifecycleFieldPermission where
  standard_fields := p.standard_fields.getD Dict.empty
  custom_fields := p.custom_fields

/-- The body of a request, or none where the request is refused with a 422 before
any service sees it. -/
def LifecycleDefinition.model_validate (d : Definition) : Option LifecycleDefinition := do
  let states ← d.states.mapM LifecycleState.model_validate
  let transitions ← d.transitions.mapM LifecycleTransition.model_validate
  if h : (states.filter LifecycleState.is_initial).length = 1 then
    some
      { states := states
        transitions := transitions
        field_permissions := d.field_permissions.map LifecycleFieldPermission.model_validate
        action_permissions := d.action_permissions
        one_initial := h }
  else none

/-! ## Writing JSON -/

/-- The flags the class lists. -/
def LifecycleState.flags (s : LifecycleState) : Dict Bool where
  items :=
    [("is_initial", s.is_initial),
      ("is_terminal", s.is_terminal),
      ("is_admission_lockdown", s.is_admission_lockdown),
      ("is_failed", s.is_failed),
      ("marks_deployed", s.marks_deployed),
      ("is_closed", s.is_closed),
      ("requires_pir_complete", s.requires_pir_complete),
      ("requires_handover_confirmed", s.requires_handover_confirmed)]
  keys_nodup := by simp

def LifecycleState.model_dump (s : LifecycleState) : StateEntry := ⟨s.key, some s.label, s.flags⟩

def LifecycleTransition.model_dump (t : LifecycleTransition) : TransitionEntry :=
  ⟨some t.from_state, some t.to_state, some t.label, some t.allowed_roles⟩

def LifecycleFieldPermission.model_dump (p : LifecycleFieldPermission) : PermissionEntry where
  editable_fields := none
  editable_by := none
  standard_fields := some p.standard_fields
  custom_fields := p.custom_fields
  required_fields := none

def LifecycleDefinition.model_dump (d : LifecycleDefinition) : Definition where
  states := d.states.map LifecycleState.model_dump
  transitions := d.transitions.map LifecycleTransition.model_dump
  field_permissions := d.field_permissions.map LifecycleFieldPermission.model_dump
  action_permissions := d.action_permissions

/-! ## The rules of an entity -/

structure EntityFieldSpec where
  valid : List String
  mandatory : List String
  valid_nodup : valid.Nodup

def ENTITY_FIELD_SPECS : String → Option EntityFieldSpec
  | "booking" => some
    { valid := ["project_name", "start_date", "end_date", "booking_type", "notes",
        "exclusive_use", "context_tag"]
      mandatory := ["project_name", "start_date", "end_date", "booking_type"]
      valid_nodup := by simp }
  | "change_request" => some
    { valid := ["title", "description", "change_type", "scheduled_start", "scheduled_end",
        "has_outage", "outage_start", "outage_end", "release_id"]
      mandatory := ["title", "change_type", "scheduled_start", "scheduled_end"]
      valid_nodup := by simp }
  | "release" => some
    { valid := ["name", "description", "release_type", "target_date", "actual_date", "raised_by"]
      mandatory := []
      valid_nodup := by simp }
  | "environment_request" => some
    { valid := ["kind", "justification", "needed_by", "environment_id", "proposed_name",
        "tier_id", "expires_at", "operations_group_id"]
      mandatory := []
      valid_nodup := by simp }
  | _ => none

def VALID_ENTERPRISE_ACTION_KEYS : List String :=
  ["membership.admit", "membership.reject", "membership.remove"]

/-- `sorted(xs)`, as an error prints it. -/
def sorted_list (xs : List String) : String :=
  py_repr_list (order_by id xs)

/-- The flags of a closed state, for every entity. -/
def validate_closed_flags (s : LifecycleState) : Except String Unit := do
  raise_if (s.is_closed ∧ ¬ s.is_terminal) s!"state '{s.key}': is_closed requires is_terminal"
  raise_if (s.requires_pir_complete ∧ ¬ s.is_closed)
    s!"state '{s.key}': requires_pir_complete requires is_closed"
  raise_if (s.requires_handover_confirmed ∧ ¬ s.is_closed)
    s!"state '{s.key}': requires_handover_confirmed requires is_closed"

/-- The states that `environment_request_service` knows by name. -/
def required_states : List String := ["submitted", "approved", "rejected", "fulfilled"]

def validate_required_states (definition : LifecycleDefinition) : Except String Unit :=
  let missing := required_states.filter fun k => k ∉ definition.states.map LifecycleState.key
  raise_if (missing ≠ [])
    ("An environment_request lifecycle must define states named "
      ++ sorted_list required_states ++ " (the service's own logic keys on these names) — missing: "
      ++ sorted_list missing ++ ".")

/-- A flag that an enterprise release template may not carry. -/
def reject_flag (s : LifecycleState) (flag : String) (value : Bool) : Except String Unit :=
  raise_if (value = true) s!"{flag} is not valid on an enterprise release template (state '{s.key}')"

def validate_enterprise (definition : LifecycleDefinition) : Except String Unit := do
  for_each definition.states fun s => do
    reject_flag s "marks_deployed" s.marks_deployed
    reject_flag s "is_closed" s.is_closed
    reject_flag s "requires_pir_complete" s.requires_pir_complete
    reject_flag s "requires_handover_confirmed" s.requires_handover_confirmed
  raise_if ((definition.states.filter LifecycleState.is_admission_lockdown).length > 1)
    "at most one state may have is_admission_lockdown=True"
  for_each (definition.action_permissions.getD Dict.empty).items fun entry =>
    for_each entry.2.keys fun action_key =>
      raise_if (action_key ∉ VALID_ENTERPRISE_ACTION_KEYS)
        s!"unknown action_key '{action_key}' at state '{entry.1}'"

def validate_not_enterprise (definition : LifecycleDefinition) : Except String Unit := do
  for_each definition.states fun s =>
    raise_if (s.is_admission_lockdown = true)
      "is_admission_lockdown only valid on release/enterprise templates"
  raise_if ((definition.action_permissions.getD Dict.empty).items ≠ [])
    "action_permissions only valid on release/enterprise templates"

/-- What is checked once the entity is known to have a specification. The early
returns come before the rules of the kind. -/
def validate_against (spec : EntityFieldSpec) (definition : LifecycleDefinition)
    (entity_type : String) (applies_to_kind : Option String) : Except String Unit := do
  for_each definition.field_permissions.items fun entry =>
    let invalid := entry.2.standard_fields.keys.filter fun f => f ∉ spec.valid
    raise_if (invalid ≠ [])
      (s!"Invalid standard field names for entity '{entity_type}' in state '{entry.1}': "
        ++ sorted_list invalid ++ ". Must be one of " ++ sorted_list spec.valid ++ ".")
  match definition.states.find? LifecycleState.is_initial with
  | none => .ok ()
  | some initial =>
    match definition.field_permissions.get initial.key with
    | none =>
      raise_if (spec.mandatory ≠ [])
        (s!"Initial state '{initial.key}' has no field_permissions entry. Mandatory fields "
          ++ sorted_list spec.mandatory ++ " must each have at least one editable role.")
    | some perm => do
      for_each spec.mandatory fun field =>
        raise_if ((perm.standard_fields.get field).getD [] = [])
          (s!"Mandatory field '{field}' in initial state '{initial.key}' "
            ++ "must have at least one role in editable_by.")
      if entity_type = "release" ∧ applies_to_kind = some "enterprise" then
        validate_enterprise definition
      else validate_not_enterprise definition

def validate_definition_for_entity (definition : LifecycleDefinition) (entity_type : String)
    (applies_to_kind : Option String) : Except String Unit := do
  for_each definition.states validate_closed_flags
  match ENTITY_FIELD_SPECS entity_type with
  | none => .ok ()
  | some spec => do
    if entity_type = "environment_request" then validate_required_states definition
    validate_against spec definition entity_type applies_to_kind

end EnvMgr.Lifecycle
