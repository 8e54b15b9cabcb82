/-
`services/lifecycle_service.py` and the routes of `api/v1/booking_lifecycle.py`.

A create and an update check the definition that was sent against the rules of the
entity and of the kind, and store what the schema dumps; a copy takes what is stored.
Which transitions a role may make is read from the stored definition.
-/
import EnvMgr.Lib.Runs
import EnvMgr.Lifecycle.Schema

namespace EnvMgr.Lifecycle

/-! ## Field permissions of the old shape -/

/-- What `migrate_field_permissions` makes of one entry. -/
def migrate_entry (valid_fields : List String) (hvalid : valid_fields.Nodup)
    (perm : PermissionEntry) : PermissionEntry :=
  match perm.editable_fields with
  | none => perm
  | some old_editable_fields =>
    let old_editable_by := perm.editable_by.getD []
    { editable_fields := none
      editable_by := none
      standard_fields := some
        { items := valid_fields.map fun f =>
            (f, if f ∈ old_editable_fields then old_editable_by else [])
          keys_nodup := by
            rw [List.map_map]
            simpa [Function.comp_def] using hvalid }
      custom_fields := perm.custom_fields
      required_fields := none }

/-- Falls back to the fields of a booking. -/
def migrate_field_permissions (definition : Definition) (entity_type : String) : Definition :=
  match (ENTITY_FIELD_SPECS entity_type).or (ENTITY_FIELD_SPECS "booking") with
  | none => definition
  | some spec =>
    { definition with
      field_permissions :=
        definition.field_permissions.map (migrate_entry spec.valid spec.valid_nodup) }

/-! ## Templates -/

/-- `scalar_one_or_none()`. -/
def scalar_one_or_none {α : Type} (rows : List α) : Except Raised (Option α) := do
  raise_if (1 < rows.length) .MultipleResultsFound
  .ok rows.head?

theorem scalar_one_or_none_ok {α : Type} {rows : List α} {found : Option α} :
    scalar_one_or_none rows = .ok found ↔ rows.length ≤ 1 ∧ rows.head? = found := by
  simp only [scalar_one_or_none, bind_eq_ok, raise_if_eq_ok, Except.ok.injEq, not_lt]
  constructor
  · rintro ⟨-, hlen, hhead⟩
    exact ⟨hlen, hhead⟩
  · rintro ⟨hlen, hhead⟩
    exact ⟨(), hlen, hhead⟩

def get_template (db : Db) (template_id tenant_id : ℕ) : Except Raised LifecycleTemplate :=
  get_or_raise
    (db.templates.select_one fun t =>
      t.id = template_id ∧ t.tenant_id = tenant_id ∧ t.deleted_at = none)
    (http 404 "Lifecycle template not found")

/-- `except ValueError as e: raise HTTPException(422, detail=str(e))`. -/
def unprocessable (checked : Except String Unit) : Except Raised Unit :=
  checked.mapError (http 422)

/-- The row `create_template` adds. -/
def LifecycleTemplateCreate.row (data : LifecycleTemplateCreate) (tenant_id : ℕ)
    (entity_type : String) (id : ℕ) : LifecycleTemplate where
  id := id
  tenant_id := tenant_id
  entity_type := entity_type
  name := data.name
  description := data.description
  is_default := data.is_default
  applies_to_kind := data.applies_to_kind
  definition := migrate_field_permissions data.definition.model_dump entity_type
  deleted_at := none

def create_template (db : Db) (data : LifecycleTemplateCreate) (tenant_id : ℕ)
    (entity_type : String) : Except Raised Db := do
  unprocessable (validate_definition_for_entity data.definition entity_type data.applies_to_kind)
  .ok { db with
    templates := db.templates.insert ⟨data.row tenant_id entity_type, fun _ => rfl⟩ }

/-- What `update_template` sets; a key that is left out or `null` sets nothing. -/
def LifecycleTemplateUpdate.write (data : LifecycleTemplateUpdate) (t : LifecycleTemplate) :
    LifecycleTemplate :=
  { t with
    name := data.name.getD t.name
    description := data.description.or t.description
    is_default := data.is_default.getD t.is_default
    applies_to_kind := data.applies_to_kind.or t.applies_to_kind
    definition := (data.definition.map fun d =>
      migrate_field_permissions d.model_dump t.entity_type).getD t.definition }

def update_template (db : Db) (template_id : ℕ) (data : LifecycleTemplateUpdate)
    (tenant_id : ℕ) : Except Raised Db := do
  let template ← get_template db template_id tenant_id
  for_each data.definition.toList fun definition =>
    unprocessable (validate_definition_for_entity definition template.entity_type
      (data.applies_to_kind.or template.applies_to_kind))
  .ok { db with
    templates := db.templates.update (fun t => t.id = template.id) ⟨data.write, fun _ => rfl⟩ }

def delete_template (db : Db) (template_id tenant_id : ℕ) (now : DateTime) :
    Except Raised Db := do
  let template ← get_template db template_id tenant_id
  let in_use ← scalar_one_or_none (db.booking_types.filter fun b =>
    b.lifecycle_template_id = template_id ∧ b.tenant_id = tenant_id ∧ b.deleted_at = none)
  raise_if (in_use ≠ none)
    (http 409 "Cannot delete: template is in use by one or more booking types")
  .ok { db with
    templates := db.templates.update (fun t => t.id = template.id)
      ⟨fun t => { t with deleted_at := some now }, fun _ => rfl⟩ }

/-- The row `copy_template` adds. -/
def copy_row (original : LifecycleTemplate) (new_name : String) (tenant_id id : ℕ) :
    LifecycleTemplate where
  id := id
  tenant_id := tenant_id
  entity_type := original.entity_type
  name := new_name
  description := original.description
  is_default := false
  applies_to_kind := original.applies_to_kind
  definition := migrate_field_permissions original.definition original.entity_type
  deleted_at := none

def copy_template (db : Db) (template_id : ℕ) (new_name : String) (tenant_id : ℕ) :
    Except Raised Db := do
  let original ← get_template db template_id tenant_id
  .ok { db with
    templates := db.templates.insert ⟨copy_row original new_name tenant_id, fun _ => rfl⟩ }

/-! ## Transitions -/

/-- A value of a record, as far as an empty one is told from another. -/
inductive FieldValue
  | none
  | text (s : String)
  | other
  deriving DecidableEq

def FieldValue.is_empty : FieldValue → Bool
  | none => true
  | text s => strip s = ""
  | other => false

/-- `record_values`: its keys, and what it holds under `custom_fields`. -/
structure RecordValues where
  fields : Dict FieldValue
  custom_fields : Dict FieldValue
  deriving DecidableEq

def RecordValues.get (values : RecordValues) (key : String) : FieldValue :=
  ((values.fields.get key).or (values.custom_fields.get key)).getD .none

/-- The first transition between the two states. -/
def find_transition (from_state to_state : String) :
    List TransitionEntry → Except Raised (Option TransitionEntry)
  | [] => .ok none
  | t :: transitions => do
    let frm ← get_or_raise t.from_state .KeyError
    if frm = from_state then do
      let dest ← get_or_raise t.to_state .KeyError
      if dest = to_state then .ok (some t)
      else find_transition from_state to_state transitions
    else find_transition from_state to_state transitions

/-- `definition["field_permissions"].get(state, {}).get("required_fields", [])`. -/
def Definition.required_fields (definition : Definition) (state : String) : List String :=
  ((definition.field_permissions.get state).bind PermissionEntry.required_fields).getD []

/-- Whether the transition is allowed, and the reason if it is not. -/
def validate_transition (definition : Definition) (from_state to_state user_role : String)
    (record_values : RecordValues) : Except Raised (Bool × Option String) := do
  let transition ← find_transition from_state to_state definition.transitions
  match transition with
  | none =>
    .ok (false, some s!"No transition from '{from_state}' to '{to_state}' is defined")
  | some transition => do
    let allowed_roles ← get_or_raise transition.allowed_roles .KeyError
    if user_role ∉ allowed_roles then
      .ok (false,
        some s!"Role '{user_role}' is not allowed to transition {from_state} → {to_state}")
    else
      let missing := (definition.required_fields to_state).filter fun key =>
        (record_values.get key).is_empty
      if missing ≠ [] then
        .ok (false,
          some (s!"Required fields empty for '{to_state}': " ++ ", ".intercalate missing))
      else .ok (true, none)

/-! ## The routes -/

/-- A request, with the clock it reads. `booking_types` is any write of another
service to the rows that are only read here. -/
inductive Request
  | create_lifecycle_template (current_user : CurrentUser) (data : LifecycleTemplateCreate)
  | update_lifecycle_template (current_user : CurrentUser) (template_id : ℕ)
      (data : LifecycleTemplateUpdate)
  | delete_lifecycle_template (current_user : CurrentUser) (template_id : ℕ) (now : DateTime)
  | copy_lifecycle_template (current_user : CurrentUser) (template_id : ℕ) (name : String)
  | booking_types (rows : List BookingType)

def require_tenant_admin (current_user : CurrentUser) : Except Raised Unit :=
  require_role Role.ADMIN current_user

def handle (db : Db) : Request → Except Raised Db
  | .create_lifecycle_template user data => do
    require_tenant_admin user
    create_template db data user.active_tenant_id data.entity_type
  | .update_lifecycle_template user template_id data => do
    require_tenant_admin user
    update_template db template_id data user.active_tenant_id
  | .delete_lifecycle_template user template_id now => do
    require_tenant_admin user
    delete_template db template_id user.active_tenant_id now
  | .copy_lifecycle_template user template_id name => do
    require_tenant_admin user
    copy_template db template_id name user.active_tenant_id
  | .booking_types rows => .ok { db with booking_types := rows }

def step (db : Db) (request : Request) : Db := commit_or_rollback db (handle db request)

/-! ## What a request writes -/

/-- `get_template` returns a live template of the tenant. -/
theorem get_template_ok {db : Db} {template_id tenant_id : ℕ} {t : LifecycleTemplate} :
    get_template db template_id tenant_id = .ok t ↔
      t ∈ db.templates ∧ t.id = template_id ∧ t.tenant_id = tenant_id ∧ t.deleted_at = none := by
  rw [get_template, get_or_raise_eq_ok]
  exact Table.select_one_key_iff fun _ hmatch => hmatch.1

/-- The request is answered. -/
def Accepted (db : Db) (request : Request) : Prop := ∃ db', handle db request = .ok db'

/-- **The accepted requests**: what each was checked for, and what it leaves. -/
inductive Change (db : Db) : Request → Db → Prop
  | create {user : CurrentUser} {data : LifecycleTemplateCreate}
      (hrole : require_tenant_admin user = .ok ())
      (hvalid : validate_definition_for_entity data.definition data.entity_type
        data.applies_to_kind = .ok ()) :
      Change db (.create_lifecycle_template user data) { db with
        templates := db.templates.insert
          ⟨data.row user.active_tenant_id data.entity_type, fun _ => rfl⟩ }
  | update {user : CurrentUser} {template_id : ℕ} {data : LifecycleTemplateUpdate}
      {template : LifecycleTemplate} (hrole : require_tenant_admin user = .ok ())
      (htemplate : get_template db template_id user.active_tenant_id = .ok template)
      (hvalid : ∀ definition, data.definition = some definition →
        validate_definition_for_entity definition template.entity_type
          (data.applies_to_kind.or template.applies_to_kind) = .ok ()) :
      Change db (.update_lifecycle_template user template_id data) { db with
        templates := db.templates.update (fun t => t.id = template.id)
          ⟨data.write, fun _ => rfl⟩ }
  | delete {user : CurrentUser} {template_id : ℕ} {now : DateTime}
      {template : LifecycleTemplate} (hrole : require_tenant_admin user = .ok ())
      (htemplate : get_template db template_id user.active_tenant_id = .ok template)
      (hfree : ∀ b ∈ db.booking_types, ¬ (b.lifecycle_template_id = template_id ∧
        b.tenant_id = user.active_tenant_id ∧ b.deleted_at = none)) :
      Change db (.delete_lifecycle_template user template_id now) { db with
        templates := db.templates.update (fun t => t.id = template.id)
          ⟨fun t => { t with deleted_at := some now }, fun _ => rfl⟩ }
  | copy {user : CurrentUser} {template_id : ℕ} {name : String} {original : LifecycleTemplate}
      (hrole : require_tenant_admin user = .ok ())
      (horiginal : get_template db template_id user.active_tenant_id = .ok original) :
      Change db (.copy_lifecycle_template user template_id name) { db with
        templates := db.templates.insert
          ⟨copy_row original name user.active_tenant_id, fun _ => rfl⟩ }
  | booking_types {rows : List BookingType} :
      Change db (.booking_types rows) { db with booking_types := rows }

theorem handle_eq_ok {db db' : Db} {request : Request} :
    handle db request = .ok db' ↔ Change db request db' := by
  constructor
  · intro h
    cases request with
    | create_lifecycle_template user data =>
      simp only [handle, create_template, unprocessable, bind_eq_ok, mapError_eq_ok] at h
      obtain ⟨_, hrole, _, hvalid, h⟩ := h
      cases h
      exact .create hrole hvalid
    | update_lifecycle_template user template_id data =>
      simp only [handle, update_template, unprocessable, bind_eq_ok, for_each_eq_ok,
        mapError_eq_ok, Option.mem_toList] at h
      obtain ⟨_, hrole, template, htemplate, _, hvalid, h⟩ := h
      cases h
      exact .update hrole htemplate hvalid
    | delete_lifecycle_template user template_id now =>
      simp only [handle, delete_template, scalar_one_or_none, bind_eq_ok, raise_if_eq_ok,
        not_not] at h
      obtain ⟨_, hrole, template, htemplate, in_use, ⟨_, -, hhead⟩, _, hnone, h⟩ := h
      cases h
      refine .delete hrole htemplate fun b hb hused => ?_
      have hfilter := List.head?_eq_none_iff.1 ((Except.ok.inj hhead).trans hnone)
      exact List.filter_eq_nil_iff.1 hfilter b hb (decide_eq_true hused)
    | copy_lifecycle_template user template_id name =>
      simp only [handle, copy_template, bind_eq_ok] at h
      obtain ⟨_, hrole, original, horiginal, h⟩ := h
      cases h
      exact .copy hrole horiginal
    | booking_types rows =>
      cases h
      exact .booking_types
  · intro h
    cases h with
    | create hrole hvalid =>
      simp only [handle, create_template, unprocessable, bind_eq_ok, mapError_eq_ok]
      exact ⟨(), hrole, (), hvalid, trivial⟩
    | update hrole htemplate hvalid =>
      simp only [handle, update_template, unprocessable, bind_eq_ok, for_each_eq_ok,
        mapError_eq_ok, Option.mem_toList]
      exact ⟨(), hrole, _, htemplate, (), hvalid, rfl⟩
    | @delete user template_id now template hrole htemplate hfree =>
      have hnil : db.booking_types.filter (fun b => b.lifecycle_template_id = template_id ∧
          b.tenant_id = user.active_tenant_id ∧ b.deleted_at = none) = [] :=
        List.filter_eq_nil_iff.2 fun b hb hused => hfree b hb (of_decide_eq_true hused)
      simp only [handle, delete_template, scalar_one_or_none, bind_eq_ok, raise_if_eq_ok,
        not_not, hnil]
      exact ⟨(), hrole, _, htemplate, none, ⟨(), by simp, rfl⟩, (), rfl, rfl⟩
    | copy hrole horiginal =>
      simp only [handle, copy_template, bind_eq_ok]
      exact ⟨(), hrole, _, horiginal, rfl⟩
    | booking_types => rfl

theorem Change.accepted {db db' : Db} {request : Request} (h : Change db request db') :
    Accepted db request := ⟨db', handle_eq_ok.2 h⟩

/-- A step is a change, or the request was refused and nothing changed. -/
theorem step_cases (db : Db) (request : Request) :
    step db request = db ∧ ¬ Accepted db request ∨ Change db request (step db request) := by
  rw [step]
  cases hhandle : handle db request with
  | error e =>
    refine Or.inl ⟨rfl, ?_⟩
    rintro ⟨db', hok⟩
    rw [hhandle] at hok
    cases hok
  | ok db' => exact Or.inr (handle_eq_ok.1 hhandle)

/-- **The rule for templates.** If an accepted request keeps `inv` exactly when it
meets `p`, then `inv` always holds exactly when it holds at the start and every
accepted request meets `p`. -/
theorem always_iff_accepted {inv : Db → Prop} {p : Db → Request → Prop}
    (hchange : ∀ {db db' : Db} {request : Request}, inv db → Change db request db' →
      (inv db' ↔ p db request)) (db : Db) (requests : List Request) :
    Runs.Always step inv db requests ↔
      inv db ∧ Runs.Along step (fun db request => Accepted db request → p db request) db
        requests := by
  have hstep : ∀ db request, True → inv db →
      (inv (step db request) ↔ (Accepted db request → p db request)) := by
    intro db request _ h
    rcases step_cases db request with ⟨hsame, hrefused⟩ | hc
    · rw [hsame]
      exact iff_of_true h fun haccepted => absurd haccepted hrefused
    · rw [hchange h hc]
      exact ⟨fun hp _ => hp, fun hp => hp hc.accepted⟩
  have hrun := fun hstart =>
    @Runs.always_iff_along _ _ step _ _ _ (fun _ _ _ => trivial) hstep db trivial hstart requests
  constructor
  · intro halways
    exact ⟨halways.head, (hrun halways.head).1 halways⟩
  · rintro ⟨hstart, halong⟩
    exact (hrun hstart).2 halong

end EnvMgr.Lifecycle
