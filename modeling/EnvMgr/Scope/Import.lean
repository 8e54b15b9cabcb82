/-
The upload of scope items: `scope_import_service.py`, and the requests that write scope items.

A cell holds what openpyxl reads from it. `_cell` makes a text of every value but a boolean,
which it hands on as it is.
-/
import EnvMgr.Scope.Service
import EnvMgr.Lib.Upload
import EnvMgr.Lifecycle.Service

namespace EnvMgr.Scope

open Lifecycle (scalar_one_or_none)

/-! ## Cells -/

/-- A Python number, with the text it has in JSON. -/
inductive Number
  | finite (written : String)
  | not_finite (written : String)
  deriving DecidableEq

/-- What a cell holds: of a number, its `str`, and `float` of it with whole numbers made
integers again, which is `none` where `float` overflows. -/
inductive Cell
  | bool (b : Bool)
  | text (s : String)
  | number (shown : String) (float : Option Number)
  | moment (shown : String)
  deriving DecidableEq

structure Worksheet where
  headers : List (Option Cell)
  rows : List (List (Option Cell))
  deriving DecidableEq

/-- What an uploaded file has for its active sheet. A chart has no rows to ask for. -/
inductive UploadedFile
  | unreadable
  | chartsheet
  | worksheet (ws : Worksheet)
  deriving DecidableEq

/-- What Python makes of texts: `str.lower`, and `float` of those it accepts. -/
structure External where
  lower : String → String
  float : String → Number

/-- `str(v)`. -/
def Cell.str : Cell → String
  | .bool true => "True"
  | .bool false => "False"
  | .text s => s
  | .number shown _ => shown
  | .moment shown => shown

/-- `row[idx]`, where there is such a column and the cell is not empty. -/
def cell_at (row : List (Option Cell)) (idx : Option ℕ) : Option Cell :=
  idx.bind fun i => (row[i]?).join

/-- What `_cell` returns, if not `None`. -/
inductive CellValue
  | bool (b : Bool)
  | text (s : String)
  deriving DecidableEq

/-- A text is never empty here. -/
def CellValue.truthy : CellValue → Bool
  | .bool b => b
  | .text _ => true

def _cell (row : List (Option Cell)) (idx : Option ℕ) : Option CellValue :=
  match cell_at row idx with
  | none => none
  | some (.bool b) => some (.bool b)
  | some cell => if strip cell.str = "" then none else some (.text (strip cell.str))

def Number.value : Number → FieldValue
  | .finite written => .number written
  | .not_finite written => .not_finite written

/-- The cell as it is. -/
def Cell.raw : Cell → FieldValue
  | .bool b => .bool b
  | .text s => .text s
  | .number shown _ => .number shown
  | .moment shown => .moment shown

def _coerce (ext : External) (raw : Cell) (field_type : String) : Except Raised FieldValue :=
  if field_type = "number" then
    match raw with
    | .bool b => .ok (.bool b)
    -- a text that is no number is left as it is, for the validation to refuse
    | .text s => .ok (if Bookings.float_parses s then (ext.float s).value else .text s)
    | .number _ float => get_or_raise (float.map Number.value) .OverflowError
    | .moment shown => .ok (.moment shown)
  else if field_type = "boolean" then
    match raw with
    | .bool b => .ok (.bool b)
    | raw =>
      let s := ext.lower (strip raw.str)
      .ok (if s ∈ ["true", "yes", "1", "y"] then .bool true
        else if s ∈ ["false", "no", "0", "n"] then .bool false
        else raw.raw)
  else .ok (.text (strip raw.str))

/-! ## Columns -/

def _FIXED_COLUMNS : List String :=
  ["external_key", "title", "description", "change_kind", "external_status", "project_code",
    "project_name"]

/-- The first column with this header, in any case. -/
def _header_index (ext : External) (headers : List (Option Cell)) (name : String) : Option ℕ :=
  headers.findIdx? fun h => h.any fun cell => ext.lower (strip cell.str) = ext.lower name

def required_column (ext : External) (headers : List (Option Cell)) (name : String) :
    Except Raised ℕ :=
  get_or_raise (_header_index ext headers name) (http 400 s!"Missing required column: '{name}'")

/-- The definition a header names by its key or else its label. Of several the dictionaries
keep the last. -/
def definition_for (ext : External) (all_defs : List FieldDefinition) (key : String) :
    Option FieldDefinition :=
  (all_defs.reverse.find? fun d => ext.lower d.field_key = ext.lower key).or
    (all_defs.reverse.find? fun d => ext.lower d.label = ext.lower key)

def custom_cols (ext : External) (all_defs : List FieldDefinition) (headers : List (Option Cell)) :
    List (ℕ × FieldDefinition) :=
  headers.zipIdx.filterMap fun (h, i) => h.bind fun cell =>
    let key := strip cell.str
    if ext.lower key ∈ _FIXED_COLUMNS.map ext.lower then none
    else (definition_for ext all_defs key).map fun defn => (i, defn)

/-- What one upload is resolved against. -/
structure ImportContext where
  release_id : ℕ
  tenant_id : ℕ
  custom_fields : List FieldDefinition
  custom_cols : List (ℕ × FieldDefinition)
  external_key : Option ℕ
  title : ℕ
  description : Option ℕ
  change_kind : ℕ
  external_status : Option ℕ
  project_code : Option ℕ
  project_name : Option ℕ

/-! ## Rows -/

/-- `raw is None`, or a text of nothing but space. -/
def is_empty : Option Cell → Bool
  | none => true
  | some (.text s) => strip s = ""
  | some _ => false

/-- The custom fields of a row. -/
def row_custom_fields (ext : External) (c : ImportContext) (row : List (Option Cell)) :
    Except Raised (Dict FieldValue) :=
  c.custom_cols.foldlM
    (fun custom_fields (col_idx, defn) =>
      match cell_at row (some col_idx) with
      | none => .ok custom_fields
      | some raw =>
        if is_empty (some raw) then .ok custom_fields
        else do
          let value ← _coerce ext raw defn.field_type
          .ok (custom_fields.set defn.field_key value))
    Dict.empty

/-- To PostgreSQL `entity_subtype = true` is no comparison of texts. -/
def _visible_keys (c : ImportContext) : CellValue → Except Raised (List String)
  | .bool _ => .error .StatementError
  | .text kind =>
    .ok ((list_definitions_for_subtype c.custom_fields c.tenant_id kind).map fun d => d.field_key)

/-- A row that is to be written. -/
structure ScopeRow where
  external_key : Option CellValue
  title : CellValue
  description : Option CellValue
  change_kind : CellValue
  external_status : Option CellValue
  project_code : Option CellValue
  project_name : Option CellValue
  custom_fields : Option (Dict FieldValue)
  deriving DecidableEq

def ImportContext.scope_row (c : ImportContext) (row : List (Option Cell)) (title kind : CellValue)
    (custom_fields : Dict FieldValue) : ScopeRow where
  external_key := _cell row c.external_key
  title := title
  description := _cell row c.description
  change_kind := kind
  external_status := _cell row c.external_status
  project_code := _cell row c.project_code
  project_name := _cell row c.project_name
  custom_fields := if custom_fields.items = [] then none else some custom_fields

/-- A text column takes texts only. -/
def bind_text : CellValue → Except Raised String
  | .bool _ => .error .StatementError
  | .text s => .ok s

def bind_nullable : Option CellValue → Except Raised (Option String)
  | none => .ok none
  | some v => do
    let s ← bind_text v
    .ok (some s)

/-- `fields`, as the driver hands them to PostgreSQL. -/
structure ScopeFields where
  title : String
  description : Option String
  change_kind : String
  external_status : Option String
  project_code : Option String
  project_name : Option String
  custom_fields : Option (Dict FieldValue)
  deriving DecidableEq

def ScopeRow.fields (r : ScopeRow) : Except Raised ScopeFields := do
  let title ← bind_text r.title
  let description ← bind_nullable r.description
  let change_kind ← bind_text r.change_kind
  let external_status ← bind_nullable r.external_status
  let project_code ← bind_nullable r.project_code
  let project_name ← bind_nullable r.project_name
  .ok
    { title := title
      description := description
      change_kind := change_kind
      external_status := external_status
      project_code := project_code
      project_name := project_name
      custom_fields := r.custom_fields }

/-- `setattr(existing, k, v)` of all fields, and the source. -/
def ScopeFields.edit (fields : ScopeFields) : Table.Edit ReleaseChange.id where
  apply c :=
    { c with
      title := fields.title
      description := fields.description
      change_kind := fields.change_kind
      external_status := fields.external_status
      project_code := fields.project_code
      project_name := fields.project_name
      custom_fields := fields.custom_fields
      source := "spreadsheet" }
  key_apply _ := rfl

def ScopeFields.new (fields : ScopeFields) (release_id tenant_id : ℕ)
    (external_key : Option String) : Table.New ReleaseChange.id where
  row id :=
    { id := id
      tenant_id := tenant_id
      release_id := some release_id
      external_key := external_key
      title := fields.title
      description := fields.description
      change_kind := fields.change_kind
      external_status := fields.external_status
      system_id := none
      project_code := fields.project_code
      project_name := fields.project_name
      custom_fields := fields.custom_fields
      source := "spreadsheet"
      deleted_at := none }
  key_row _ := rfl

/-- The item of the release with this key, if the row has one. -/
def find_existing (changes : Changes) (release_id tenant_id : ℕ) :
    Option CellValue → Except Raised (Option ReleaseChange)
  | some (.text ek) =>
    scalar_one_or_none (changes.select fun c =>
      c.tenant_id = tenant_id ∧ c.release_id = some release_id ∧ c.external_key = some ek ∧
        c.deleted_at = none)
  | some (.bool true) => .error .StatementError
  | _ => .ok none

/-- The item is new or not. -/
def upsert (release_id tenant_id : ℕ) (changes : Changes) (r : ScopeRow) :
    Except Raised (Changes × Bool) := do
  let existing ← find_existing changes release_id tenant_id r.external_key
  -- what is written is flushed by the next row's queries, or at the end
  let fields ← r.fields
  match existing with
  | some change => do
    let changes ← set_change changes change fields.edit
    .ok (changes, false)
  | none => do
    let external_key ← bind_nullable r.external_key
    let changes ← add_change changes (fields.new release_id tenant_id external_key)
    .ok (changes, true)

structure ImportError where
  row : ℕ
  field : String
  message : String
  deriving DecidableEq

structure ScopeImportResult where
  created : ℕ
  updated : ℕ
  errors : List ImportError
  deriving DecidableEq

def ScopeImportResult.error (result : ScopeImportResult) (row : ℕ) (field message : String) :
    ScopeImportResult :=
  { result with errors := result.errors ++ [⟨row, field, message⟩] }

/-- A row with a title and a kind. What the check of the custom fields refuses is reported, and
the upload goes on; whatever else is raised ends it. -/
def import_titled (ext : External) (c : ImportContext) (changes : Changes)
    (result : ScopeImportResult) (rownum : ℕ) (row : List (Option Cell)) (title kind : CellValue) :
    Except Raised (Changes × ScopeImportResult) := do
  let custom_fields ← row_custom_fields ext c row
  let visible_keys ← _visible_keys c kind
  match validate_custom_fields c.custom_fields c.tenant_id (some custom_fields) visible_keys with
  | .error (.HTTPException _ (.text detail)) =>
    .ok (changes, result.error rownum "custom_fields" detail)
  | .error e => .error e
  | .ok () => do
    let (changes', created) ← upsert c.release_id c.tenant_id changes
      (c.scope_row row title kind custom_fields)
    .ok (changes',
      { result with
        created := result.created + if created then 1 else 0
        updated := result.updated + if created then 0 else 1 })

def import_row (ext : External) (c : ImportContext) (s : Changes × ScopeImportResult)
    (numbered : List (Option Cell) × ℕ) : Except Raised (Changes × ScopeImportResult) :=
  let (changes, result) := s
  let (row, rownum) := numbered
  if row.all Option.isNone then .ok s
  else
    match (_cell row (some c.title)).filter CellValue.truthy with
    | none => .ok (changes, result.error rownum "title" "title is required")
    | some title =>
      match (_cell row (some c.change_kind)).filter CellValue.truthy with
      | none => .ok (changes, result.error rownum "change_kind" "change_kind is required")
      | some kind => import_titled ext c changes result rownum row title kind

/-- The columns of a sheet with those that are required. -/
def import_context (ext : External) (reference : Reference) (headers : List (Option Cell))
    (release_id tenant_id : ℕ) : Except Raised ImportContext := do
  let title ← required_column ext headers "title"
  let change_kind ← required_column ext headers "change_kind"
  .ok
    { release_id := release_id
      tenant_id := tenant_id
      custom_fields := reference.custom_fields
      custom_cols :=
        custom_cols ext (list_definitions reference.custom_fields tenant_id) headers
      external_key := _header_index ext headers "external_key"
      title := title
      description := _header_index ext headers "description"
      change_kind := change_kind
      external_status := _header_index ext headers "external_status"
      project_code := _header_index ext headers "project_code"
      project_name := _header_index ext headers "project_name" }

/-- `wb.active`, of a file that can be read. -/
def active : UploadedFile → Except Raised Worksheet
  | .unreadable => .error (http 400 "Could not read spreadsheet")
  | .chartsheet => .error .TypeError
  | .worksheet ws => .ok ws

/-- With the look-up of the release, which the route makes. -/
def import_scope (ext : External) (db : Db) (file : UploadedFile) (release_id tenant_id : ℕ) :
    Except Raised (Db × ScopeImportResult) := do
  let _ ← get_release db.reference.releases release_id tenant_id
  let ws ← active file
  let c ← import_context ext db.reference ws.headers release_id tenant_id
  let (changes, result) ← (ws.rows.zipIdx 2).foldlM (import_row ext c) (db.changes, ⟨0, 0, []⟩)
  .ok ({ db with changes := changes }, result)

/-! ## Requests -/

inductive Request
  | create_change (user : CurrentUser) (release_id : ℕ) (data : ReleaseChangeCreate)
  | update_change (user : CurrentUser) (change_id : ℕ) (data : ReleaseChangeUpdate)
  | move_change (user : CurrentUser) (change_id : ℕ) (to_release_id : Option ℕ)
  | delete_change (user : CurrentUser) (change_id : ℕ) (now : DateTime)
  | delete_release (user : CurrentUser) (release_id : ℕ) (now : DateTime)
  | import_scope (user : CurrentUser) (release_id : ℕ) (file : UploadedFile)
  /-- Whatever the other services do to the rows that are theirs. -/
  | others (reference : Reference)

def handle (ext : External) (db : Db) : Request → Except Raised Db
  | .create_change user release_id data => create_change db release_id data user.active_tenant_id
  | .update_change user change_id data => update_change db change_id data user.active_tenant_id
  | .move_change user change_id to_release_id =>
    move_change db change_id to_release_id user.active_tenant_id
  | .delete_change user change_id now => delete_change db change_id user.active_tenant_id now
  | .delete_release user release_id now => delete_release db release_id user.active_tenant_id now
  | .import_scope user release_id file => do
    require_role Role.ADMIN user
    let (db', _) ← import_scope ext db file release_id user.active_tenant_id
    .ok db'
  | .others reference => .ok { db with reference := reference }

def step (ext : External) (db : Db) (request : Request) : Db :=
  commit_or_rollback db (handle ext db request)

end EnvMgr.Scope
