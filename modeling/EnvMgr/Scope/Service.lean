/-
The scope items of releases: the writes of `release_scope_service.py`, and the part of
`release_service.delete_release` that sends the items of a deleted release to the backlog.

Every write goes through the columns and the index of `release_change` on PostgreSQL: a text
must fit its column, custom fields must be JSON, and of the rows of a tenant, deleted ones
included, no two have the same `external_key`
(`uq_release_change_tenant_external_key`). What the schemas of the requests refuse as too long
would not fit the columns either.
-/
import EnvMgr.Bookings.CustomFields

namespace EnvMgr.Scope

open Bookings (CustomFieldDefinition Json)

/-! ## Tables -/

/-- A value of a custom field, with the text it has in JSON. -/
inductive FieldValue
  | null
  | bool (b : Bool)
  | number (written : String)
  | text (s : String)
  | composite (written : String)
  /-- An infinity or a NaN. -/
  | not_finite (written : String)
  /-- A date or a time of a spreadsheet. -/
  | moment (written : String)
  deriving DecidableEq

/-- What the check of custom fields sees of it. To a `float` a moment is like a list. -/
def FieldValue.json : FieldValue → Json
  | .null => .null
  | .bool b => .bool b
  | .number _ => .number
  | .text s => .text s
  | .composite _ => .composite
  | .not_finite _ => .number
  | .moment _ => .composite

/-- `json.dumps` writes it, and PostgreSQL reads it. -/
def FieldValue.storable : FieldValue → Bool
  | .not_finite _ => false
  | .moment _ => false
  | _ => true

structure System where
  id : ℕ
  tenant_id : ℕ
  deleted_at : Option DateTime
  deriving DecidableEq

/-- A definition may be for one kind of scope item only. -/
structure FieldDefinition extends CustomFieldDefinition where
  entity_subtype : Option String

structure ReleaseChange where
  id : ℕ
  tenant_id : ℕ
  /-- `none` is the backlog. -/
  release_id : Option ℕ
  external_key : Option String
  title : String
  description : Option String
  change_kind : String
  external_status : Option String
  system_id : Option ℕ
  project_code : Option String
  project_name : Option String
  custom_fields : Option (Dict FieldValue)
  source : String
  deleted_at : Option DateTime
  deriving DecidableEq

abbrev Changes := Table ReleaseChange ReleaseChange.id

/-- The rows that scope items are checked against. -/
structure Reference where
  releases : List Release
  systems : List System
  custom_fields : List FieldDefinition

structure Db where
  reference : Reference
  changes : Changes

def Db.opened (reference : Reference) : Db := ⟨reference, Table.empty⟩

/-! ## Writing a row -/

/-- The widths of the columns, and custom fields that are JSON. -/
def ReleaseChange.fits (c : ReleaseChange) : Bool :=
  c.title.length ≤ 500 && c.change_kind.length ≤ 20 && c.external_key.all (·.length ≤ 50) &&
    c.external_status.all (·.length ≤ 100) && c.project_code.all (·.length ≤ 50) &&
    c.project_name.all (·.length ≤ 200) && c.source.length ≤ 20 &&
    c.custom_fields.all fun fields => fields.items.all fun i => i.2.storable

/-- Two rows that the index keeps apart. -/
def SameKey (a b : ReleaseChange) : Prop :=
  a.tenant_id = b.tenant_id ∧ a.external_key ≠ none ∧ a.external_key = b.external_key
  deriving Decidable

/-- `db.add(row)` and its flush. -/
def add_change (changes : Changes) (new : Table.New ReleaseChange.id) : Except Raised Changes := do
  let row := new.row changes.next
  raise_if (row.fits = false) .StatementError
  raise_if (∃ c ∈ changes, SameKey c row) .IntegrityError
  .ok (changes.insert new)

/-- The flush of a row that was loaded and changed. -/
def set_change (changes : Changes) (change : ReleaseChange) (edit : Table.Edit ReleaseChange.id) :
    Except Raised Changes := do
  let row := edit.apply change
  raise_if (row.fits = false) .StatementError
  raise_if (∃ c ∈ changes, c.id ≠ change.id ∧ SameKey c row) .IntegrityError
  .ok (changes.update (fun c => c.id = change.id) edit)

/-! ## Look-ups -/

def _get_change (db : Db) (change_id tenant_id : ℕ) : Except Raised ReleaseChange :=
  get_or_raise
    (db.changes.select_one fun c =>
      c.id = change_id ∧ c.tenant_id = tenant_id ∧ c.deleted_at = none)
    (http 404 "Release change not found")

def _validate_system (db : Db) (system_id : Option ℕ) (tenant_id : ℕ) : Except Raised Unit :=
  for_each system_id.toList fun id =>
    raise_if (∀ s ∈ db.reference.systems, ¬ (s.id = id ∧ s.tenant_id = tenant_id ∧
        s.deleted_at = none))
      (http 400 "system_id must refer to an active system in this tenant")

def ENTITY_TYPE : String := "release_change"

/-- `custom_field_service.list_definitions`. -/
def list_definitions (custom_fields : List FieldDefinition) (tenant_id : ℕ) :
    List FieldDefinition :=
  order_by (fun d => toLex (d.display_order, d.id))
    (custom_fields.filter fun d =>
      d.tenant_id = tenant_id ∧ d.entity_type = ENTITY_TYPE ∧ d.deleted_at = none)

/-- Those for all kinds, and those for this one. -/
def list_definitions_for_subtype (custom_fields : List FieldDefinition) (tenant_id : ℕ)
    (subtype : String) : List FieldDefinition :=
  order_by (fun d => toLex (d.display_order, d.id))
    (custom_fields.filter fun d =>
      d.tenant_id = tenant_id ∧ d.entity_type = ENTITY_TYPE ∧ d.deleted_at = none ∧
        (d.entity_subtype = none ∨ d.entity_subtype = some subtype))

/-- `custom_field_service.validate_custom_fields`. -/
def validate_custom_fields (custom_fields : List FieldDefinition) (tenant_id : ℕ)
    (values : Option (Dict FieldValue)) (visible_keys : List String) : Except Raised Unit :=
  Bookings.validate_custom_fields
    (Bookings.Db.fresh Table.empty
      ⟨[], [], [], [], [], custom_fields.map FieldDefinition.toCustomFieldDefinition⟩)
    tenant_id ENTITY_TYPE (values.map fun fields => fields.map FieldValue.json) (some visible_keys)

/-- With the fields that are visible for the kind of item. -/
def validate_for_kind (custom_fields : List FieldDefinition) (tenant_id : ℕ) (change_kind : String)
    (values : Option (Dict FieldValue)) : Except Raised Unit :=
  validate_custom_fields custom_fields tenant_id values
    ((list_definitions_for_subtype custom_fields tenant_id change_kind).map fun d => d.field_key)

/-! ## `release_scope_service` -/

structure ReleaseChangeCreate where
  external_key : Option String
  title : String
  description : Option String
  change_kind : String
  external_status : Option String
  system_id : Option ℕ
  custom_fields : Option (Dict FieldValue)
  project_code : Option String
  project_name : Option String
  deriving DecidableEq

def create_change (db : Db) (release_id : ℕ) (data : ReleaseChangeCreate) (tenant_id : ℕ) :
    Except Raised Db := do
  let _ ← get_release db.reference.releases release_id tenant_id
  _validate_system db data.system_id tenant_id
  validate_for_kind db.reference.custom_fields tenant_id data.change_kind data.custom_fields
  let changes ← add_change db.changes
    { row id :=
        { id := id
          tenant_id := tenant_id
          release_id := some release_id
          external_key := data.external_key
          title := data.title
          description := data.description
          change_kind := data.change_kind
          external_status := data.external_status
          system_id := data.system_id
          project_code := data.project_code
          project_name := data.project_name
          custom_fields := data.custom_fields
          source := "manual"
          deleted_at := none }
      key_row _ := rfl }
  .ok { db with changes := changes }

structure ReleaseChangeUpdate where
  external_key : Sent String
  title : Sent String
  description : Sent String
  external_status : Sent String
  system_id : Sent ℕ
  custom_fields : Sent (Dict FieldValue)
  project_code : Sent String
  project_name : Sent String
  deriving DecidableEq

/-- `sorted(_JIRA_READONLY_FIELDS & set(update_data.keys()))`. -/
def ReleaseChangeUpdate.bad_fields (data : ReleaseChangeUpdate) : List String :=
  [("description", data.description.mentioned), ("external_key", data.external_key.mentioned),
    ("external_status", data.external_status.mentioned), ("title", data.title.mentioned)].filterMap
      fun field => if field.2 then some field.1 else none

def ReleaseChangeUpdate.edit (data : ReleaseChangeUpdate) : Table.Edit ReleaseChange.id where
  apply c :=
    { c with
      external_key := data.external_key.set_nullable c.external_key
      title := data.title.set_required c.title
      description := data.description.set_nullable c.description
      external_status := data.external_status.set_nullable c.external_status
      system_id := data.system_id.set_nullable c.system_id
      custom_fields := data.custom_fields.set_nullable c.custom_fields
      project_code := data.project_code.set_nullable c.project_code
      project_name := data.project_name.set_nullable c.project_name }
  key_apply _ := rfl

def update_change (db : Db) (change_id : ℕ) (data : ReleaseChangeUpdate) (tenant_id : ℕ) :
    Except Raised Db := do
  let change ← _get_change db change_id tenant_id
  _validate_system db (data.system_id.set_nullable none) tenant_id
  raise_if (change.source = "jira" ∧ data.bad_fields ≠ [])
    (http 422 s!"Cannot edit fields {py_repr_list data.bad_fields} on a jira-sourced change item")
  for_each (if data.custom_fields.mentioned then [data.custom_fields] else []) fun sent =>
    validate_for_kind db.reference.custom_fields tenant_id change.change_kind
      (sent.set_nullable none)
  -- the title cannot be null
  raise_if (data.title = .null) .IntegrityError
  let changes ← set_change db.changes change data.edit
  for_each change.release_id.toList fun id =>
    get_release db.reference.releases id tenant_id >>= fun _ => .ok ()
  .ok { db with changes := changes }

/-- `change.release_id = to_release_id`. -/
def reassigned (to_release_id : Option ℕ) : Table.Edit ReleaseChange.id where
  apply c := { c with release_id := to_release_id }
  key_apply _ := rfl

def move_change (db : Db) (change_id : ℕ) (to_release_id : Option ℕ) (tenant_id : ℕ) :
    Except Raised Db := do
  let change ← _get_change db change_id tenant_id
  raise_if (change.source = "jira") (http 422 "Cannot move jira-sourced scope items")
  if change.release_id = to_release_id then .ok db
  else do
    for_each to_release_id.toList fun id =>
      get_release db.reference.releases id tenant_id >>= fun _ => .ok ()
    for_each change.release_id.toList fun id =>
      get_release db.reference.releases id tenant_id >>= fun _ => .ok ()
    let changes ← set_change db.changes change (reassigned to_release_id)
    .ok { db with changes := changes }

def delete_change (db : Db) (change_id tenant_id : ℕ) (now : DateTime) : Except Raised Db := do
  let change ← _get_change db change_id tenant_id
  for_each change.release_id.toList fun id =>
    get_release db.reference.releases id tenant_id >>= fun _ => .ok ()
  let changes ← set_change db.changes change
    { apply c := { c with deleted_at := some now }, key_apply _ := rfl }
  .ok { db with changes := changes }

/-! ## `release_service.delete_release` -/

/-- The live items of the release go to the backlog. -/
def delete_release (db : Db) (release_id tenant_id : ℕ) (now : DateTime) : Except Raised Db := do
  let release ← get_release db.reference.releases release_id tenant_id
  .ok
    { reference :=
        { db.reference with
          releases := db.reference.releases.map fun r =>
            if r.id = release.id then { r with deleted_at := some now } else r }
      changes := db.changes.update
        (fun c => c.release_id = some release_id ∧ c.tenant_id = tenant_id ∧ c.deleted_at = none)
        (reassigned none) }

end EnvMgr.Scope
