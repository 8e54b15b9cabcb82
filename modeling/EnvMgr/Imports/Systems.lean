/-
The upload of systems: `excel_import_service.import_systems` and the create path of
`system_service.py`.

It is the upload of environments over again, without tiers and owners, and with a column of
its own that may be too long.
-/
import EnvMgr.Imports.Environments

namespace EnvMgr.Imports

open Bookings (CustomFieldDefinition Json list_definitions validate_custom_fields)
open Compliance (Cell Worksheet RowMessage External _find_col cell_at truthy import_environments)
open Lifecycle (scalar_one_or_none scalar_one_or_none_ok)
open Upload

/-! ## Systems -/

structure System where
  id : ℕ
  tenant_id : ℕ
  name : String
  description : Option String
  github_repository_url : Option String
  custom_fields : Option (Dict Json)
  deleted_at : Option DateTime
  deriving DecidableEq

/-- The systems, and the definitions that a create looks up. -/
structure Catalogue where
  custom_fields : List CustomFieldDefinition
  systems : Table System System.id

def Catalogue.custom (db : Catalogue) : Bookings.Db :=
  Bookings.Db.fresh Table.empty ⟨[], [], [], [], [], db.custom_fields⟩

/-- The live systems of the tenant with this name. -/
def systems_named (db : Catalogue) (tenant_id : ℕ) (name : String) : List System :=
  db.systems.select fun s => s.name = name && (s.tenant_id = tenant_id && s.deleted_at = none)

structure SystemCreate where
  name : String
  description : Option String
  github_repository_url : Option String
  custom_fields : Option (Dict Json)
  deriving DecidableEq

def SystemCreate.row (data : SystemCreate) (tenant_id id : ℕ) : System where
  id := id
  tenant_id := tenant_id
  name := data.name
  description := data.description
  github_repository_url := data.github_repository_url
  custom_fields := data.custom_fields
  deleted_at := none

/-- `name: String(200)` and `github_repository_url: String(500)`. -/
def SystemCreate.fits (data : SystemCreate) : Bool :=
  data.name.length ≤ 200 && data.github_repository_url.all fun url => url.length ≤ 500

def add_system (db : Catalogue) (data : SystemCreate) (tenant_id : ℕ) : Catalogue :=
  { db with systems := db.systems.insert ⟨data.row tenant_id, fun _ => rfl⟩ }

def create_system (db : Catalogue) (data : SystemCreate) (tenant_id : ℕ) :
    Except Raised Catalogue := do
  let existing ← scalar_one_or_none (systems_named db tenant_id data.name)
  raise_if (existing ≠ none) (http 409 "A system with this name already exists in this tenant")
  validate_custom_fields db.custom tenant_id "system" data.custom_fields none
  -- PostgreSQL takes nothing longer than the columns
  raise_if (data.fits = false) .StatementError
  .ok (add_system db data tenant_id)

/-! ## The upload -/

structure SystemsResult where
  created : ℕ
  skipped : ℕ
  errors : List RowMessage
  deriving DecidableEq

def SystemsResult.error (result : SystemsResult) (row : ℕ) (field message : String) :
    SystemsResult :=
  { result with errors := result.errors ++ [⟨row, field, message⟩] }

/-- Where the columns are. -/
structure Columns where
  name_idx : ℕ
  desc_idx : Option ℕ
  github_idx : Option ℕ

/-- A row whose name is known. A `ValueError` is reported and the upload goes on; whatever
else is raised ends it. -/
def import_system_named (tenant_id : ℕ) (db : Catalogue) (result : SystemsResult) (row_num : ℕ)
    (data : SystemCreate) : Except Raised (Catalogue × SystemsResult) := do
  let existing ← scalar_one_or_none (systems_named db tenant_id data.name)
  if existing ≠ none then .ok (db, { result with skipped := result.skipped + 1 })
  else
    match create_system db data tenant_id with
    | .ok db' => .ok (db', { result with created := result.created + 1 })
    | .error .ValueError => .ok (db, result.error row_num "general" "ValueError")
    | .error e => .error e

def import_system_row (tenant_id : ℕ) (cols : Columns) (s : Catalogue × SystemsResult)
    (numbered : List (Option Cell) × ℕ) : Except Raised (Catalogue × SystemsResult) :=
  let (db, result) := s
  let (row, row_num) := numbered
  if row.all Option.isNone then .ok s
  else
    match (cell_at row (some cols.name_idx)).filter fun cell =>
        cell.truthy && strip cell.str ≠ "" with
    | none => .ok (db, result.error row_num "Name" "Name is required")
    | some name =>
      import_system_named tenant_id db result row_num
        { name := strip name.str
          description := truthy ((cell_at row cols.desc_idx).map fun cell => strip cell.str)
          github_repository_url :=
            truthy ((cell_at row cols.github_idx).map fun cell => strip cell.str)
          custom_fields := none }

def import_systems (ext : External) (db : Catalogue) (ws : Worksheet) (tenant_id : ℕ) :
    Except Raised (Catalogue × SystemsResult) := do
  let name_idx ← get_or_raise (_find_col ext ws.headers "Name")
    (http 400 "Missing required column: 'Name'")
  let cols : Columns :=
    { name_idx := name_idx
      desc_idx := _find_col ext ws.headers "Description"
      github_idx := _find_col ext ws.headers "GitHub URL" }
  (ws.rows.zipIdx 2).foldlM (import_system_row tenant_id cols) (db, ⟨0, 0, []⟩)

/-! ## Reading rows -/

def parse_system_row (cols : Columns) (row : List (Option Cell)) :
    Row SystemCreate (String × String) :=
  if row.all Option.isNone then .blank
  else
    match (cell_at row (some cols.name_idx)).filter fun cell =>
        cell.truthy && strip cell.str ≠ "" with
    | none => .bad ("Name", "Name is required")
    | some name =>
      .good
        { name := strip name.str
          description := truthy ((cell_at row cols.desc_idx).map fun cell => strip cell.str)
          github_repository_url :=
            truthy ((cell_at row cols.github_idx).map fun cell => strip cell.str)
          custom_fields := none }

def place_system (tenant_id : ℕ) (db : Catalogue) (data : SystemCreate) :
    Except Raised (Catalogue × Bool) :=
  skip_or_make (systems_named db tenant_id data.name) db (create_system db data tenant_id)

def systems_counts (result : SystemsResult) : Counts (String × String) where
  fresh := result.created
  known := result.skipped
  errors := result.errors.map fun e => (e.row, (e.field, e.message))

/-- A new system can be stored: no custom field is required of it, and it fits the columns. -/
structure SystemCreatable (db : Catalogue) (tenant_id : ℕ) (data : SystemCreate) : Prop where
  nothing_required :
    ∀ defn ∈ list_definitions db.custom tenant_id "system", defn.required = false
  fits : data.fits = true

section

variable {ext : External} {db : Catalogue} {tenant_id : ℕ} {cols : Columns}

theorem create_system_raised {data : SystemCreate} {e : Raised}
    (hfields : data.custom_fields = none)
    (h : create_system db data tenant_id = .error e) : e ≠ .ValueError := by
  simp only [create_system, scalar_one_or_none, bind_eq_error, raise_if_eq_error, hfields] at h
  rcases h with (⟨-, rfl⟩ | ⟨_, -, h⟩) | ⟨_, -, ⟨-, rfl⟩ | ⟨_, -, h | ⟨_, -, ⟨-, rfl⟩ | ⟨_, -, h⟩⟩⟩⟩
  · exact Raised.noConfusion
  · cases h
  · exact Raised.noConfusion
  · exact validate_raised h
  · exact Raised.noConfusion
  · cases h

/-! ## The upload is its rows -/

theorem import_system_row_parsed (result : SystemsResult) (row : List (Option Cell)) (n : ℕ) :
    import_system_row tenant_id cols (db, result) (row, n) =
      match parse_system_row cols row with
      | .blank => .ok (db, result)
      | .bad fault => .ok (db, result.error n fault.1 fault.2)
      | .good data => import_system_named tenant_id db result n data := by
  simp only [import_system_row, parse_system_row]
  by_cases hblank : row.all Option.isNone = true
  · rw [if_pos hblank, if_pos hblank]
  · rw [if_neg hblank, if_neg hblank]
    cases (cell_at row (some cols.name_idx)).filter fun cell =>
        cell.truthy && strip cell.str ≠ "" with
    | none => rfl
    | some name => rfl

theorem parse_system_row_fields {row : List (Option Cell)} {data : SystemCreate}
    (h : parse_system_row cols row = .good data) : data.custom_fields = none := by
  simp only [parse_system_row] at h
  split at h
  · cases h
  · split at h
    · cases h
    · cases h
      rfl

theorem import_system_named_counts (result : SystemsResult) (n : ℕ) {data : SystemCreate}
    (hfields : data.custom_fields = none) :
    (import_system_named tenant_id db result n data).map (fun s => (s.1, systems_counts s.2)) =
      take_row (place_system tenant_id) (db, systems_counts result) (.good data, n) := by
  simp only [import_system_named, take_row, place_system, skip_or_make]
  cases scalar_one_or_none (systems_named db tenant_id data.name) with
  | error e => rfl
  | ok existing =>
    cases existing with
    | some s => rfl
    | none =>
      cases hcreate : create_system db data tenant_id with
      | ok db' => simp [bind, Except.bind, Except.map, systems_counts]
      | error e =>
        have hne := create_system_raised hfields hcreate
        simp [bind, Except.bind, Except.map]

theorem import_system_row_counts (s : Catalogue × SystemsResult)
    (numbered : List (Option Cell) × ℕ) :
    (import_system_row tenant_id cols s numbered).map (fun s => (s.1, systems_counts s.2)) =
      take_row (place_system tenant_id) (s.1, systems_counts s.2)
        (parse_system_row cols numbered.1, numbered.2) := by
  rw [import_system_row_parsed]
  cases h : parse_system_row cols numbered.1 with
  | blank => rfl
  | bad fault => simp [take_row, systems_counts, SystemsResult.error, Except.map]
  | good data =>
    exact import_system_named_counts s.2 numbered.2 (parse_system_row_fields h)

/-! ## Good rows by their names -/

theorem create_system_ok_iff {data : SystemCreate} {db' : Catalogue} :
    create_system db data tenant_id = .ok db' ↔
      (systems_named db tenant_id data.name).length = 0 ∧
        (validate_custom_fields db.custom tenant_id "system" data.custom_fields none = .ok () ∧
          data.fits = true) ∧ db' = add_system db data tenant_id := by
  simp only [create_system, bind_eq_ok, raise_if_eq_ok, Except.ok.injEq, not_not,
    scalar_one_or_none_ok, Bool.not_eq_false]
  constructor
  · rintro ⟨existing, ⟨-, hhead⟩, _, rfl, _, hfields, _, hfits, rfl⟩
    exact ⟨List.length_eq_zero_iff.2 (List.head?_eq_none_iff.1 hhead), ⟨hfields, hfits⟩, rfl⟩
  · rintro ⟨hnone, ⟨hfields, hfits⟩, rfl⟩
    refine ⟨none, ⟨hnone.trans_le zero_le_one, ?_⟩, (), rfl, (), hfields, (), hfits, rfl⟩
    exact List.head?_eq_none_iff.2 (List.length_eq_zero_iff.1 hnone)

theorem systems_named_add {data : SystemCreate} {name : String} :
    (systems_named (add_system db data tenant_id) tenant_id name).length =
      (systems_named db tenant_id name).length + if name = data.name then 1 else 0 := by
  rw [systems_named, add_system, Table.select_insert, List.length_append]
  by_cases hname : name = data.name
  · simp [systems_named, SystemCreate.row, hname]
  · simp [systems_named, SystemCreate.row, hname, Ne.symm hname]

theorem place_system_keyed :
    Keyed (fun s : Catalogue => s.custom_fields = db.custom_fields)
      (fun s name => (systems_named s tenant_id name).length) SystemCreate.name
      (fun data => validate_custom_fields db.custom tenant_id "system" data.custom_fields none =
        .ok () ∧ data.fits = true)
      (place_system tenant_id) := by
  refine keyed_skip_or_make (fun s data hs => ?_) (fun s data t hs h => ?_)
  · have hcustom : s.custom = db.custom := by rw [Catalogue.custom, Catalogue.custom, hs]
    rw [← hcustom]
    simp only [create_system_ok_iff]
    exact ⟨fun ⟨_, hnone, hcreatable, _⟩ => ⟨hnone, hcreatable⟩,
      fun ⟨hnone, hcreatable⟩ => ⟨_, hnone, hcreatable, rfl⟩⟩
  · obtain ⟨-, -, rfl⟩ := create_system_ok_iff.1 h
    exact ⟨hs, fun name => systems_named_add⟩

end

/-! ## The whole upload -/

section

variable {ext : External} {db : Catalogue} {headers : List (Option Cell)} {tenant_id name_idx : ℕ}

def columns (ext : External) (headers : List (Option Cell)) (name_idx : ℕ) : Columns where
  name_idx := name_idx
  desc_idx := _find_col ext headers "Description"
  github_idx := _find_col ext headers "GitHub URL"

def upload_systems (ext : External) (db : Catalogue) (headers : List (Option Cell))
    (tenant_id : ℕ) (rows : List (List (Option Cell))) :
    Except Raised (Catalogue × Counts (String × String)) :=
  (import_systems ext db ⟨headers, rows⟩ tenant_id).map fun s => (s.1, systems_counts s.2)

theorem upload_systems_eq (hname : _find_col ext headers "Name" = some name_idx)
    (rows : List (List (Option Cell))) :
    upload_systems ext db headers tenant_id rows =
      (read (parse_system_row (columns ext headers name_idx)) 2 rows).foldlM
        (take_row (place_system tenant_id)) (db, ⟨0, 0, []⟩) := by
  have himport : import_systems ext db ⟨headers, rows⟩ tenant_id =
      (rows.zipIdx 2).foldlM (import_system_row tenant_id (columns ext headers name_idx))
        (db, ⟨0, 0, []⟩) := by
    simp only [import_systems, hname, get_or_raise]
    rfl
  rw [upload_systems, himport]
  exact foldlM_map import_system_row_counts

/-- The sheet has a name column; and of the good rows each name is borne by one live system
at most, and where it is borne by none the first row with it is creatable. -/
def SystemsImportable (ext : External) (db : Catalogue) (ws : Worksheet) (tenant_id : ℕ) : Prop :=
  ∃ name_idx, _find_col ext ws.headers "Name" = some name_idx ∧
    Placeable (fun name => (systems_named db tenant_id name).length) SystemCreate.name
      (SystemCreatable db tenant_id)
      (goods (read (parse_system_row (columns ext ws.headers name_idx)) 2 ws.rows))

/-- The upload of the sheet isolates its rows, and each good row is stored. -/
def SystemsIsolated (ext : External) (db : Catalogue) (ws : Worksheet) (tenant_id : ℕ) : Prop :=
  ∃ name_idx, _find_col ext ws.headers "Name" = some name_idx ∧
    Isolates (upload_systems ext db ws.headers tenant_id)
      (parse_system_row (columns ext ws.headers name_idx)) 2 ws.rows
      fun db' data => (systems_named db' tenant_id data.name).length = 1

/-- **When an upload of systems isolates its rows.** -/
theorem systems_isolated_iff (ext : External) (db : Catalogue) (ws : Worksheet) (tenant_id : ℕ) :
    SystemsIsolated ext db ws tenant_id ↔ SystemsImportable ext db ws tenant_id := by
  refine exists_congr fun name_idx => and_congr_right fun hname => ?_
  have hkeyed := @place_system_keyed db tenant_id
  refine (hkeyed.isolates_iff rfl fun rows => upload_systems_eq hname rows).trans ?_
  refine placeable_congr fun data hdata => ?_
  obtain ⟨row, -, hrow⟩ := mem_goods.1 hdata
  rw [parse_system_row_fields hrow, validate_ok]
  exact ⟨fun h => ⟨h.1, h.2⟩, fun h => ⟨h.1, h.2⟩⟩

end

/-- **Uploads isolate their rows** exactly if what they would make can be made: a sheet with a
name column, for environments a tier, and no good row that the create path refuses. -/
theorem uploads_isolated_iff (ext : External) (ws : Worksheet) (tenant_id : ℕ) :
    (∀ (db : Compliance.Db) (imported_by_user_id : ℕ) (now : DateTime),
      EnvironmentsIsolated ext db ws tenant_id imported_by_user_id now ↔
        EnvironmentsImportable ext db ws tenant_id imported_by_user_id) ∧
    ∀ db : Catalogue, SystemsIsolated ext db ws tenant_id ↔
      SystemsImportable ext db ws tenant_id := by
  constructor
  · intro db imported_by_user_id now
    exact environments_isolated_iff ext db ws tenant_id imported_by_user_id now
  · intro db
    exact systems_isolated_iff ext db ws tenant_id

namespace RequiredField

def ext : External := ⟨fun _ => .error "", String.toLower⟩

/-- A tenant that wants to know the cost centre of its environments. -/
def db : Compliance.Db := Compliance.Db.opened
  { tiers := [⟨1, 1, "QA", "test", none⟩]
    users := [⟨5, 1⟩]
    user_groups := []
    group_members := []
    custom_fields :=
      [⟨1, 1, "environment", "cost_centre", "Cost centre", "text", true, 0, none⟩]
    templates := [] }

/-- One row without a name, and a good one. -/
def sheet : Worksheet where
  headers := [some ⟨true, "Name"⟩, some ⟨true, "Type"⟩]
  rows := [[none, some ⟨true, "QA"⟩], [some ⟨true, "qa-1"⟩, some ⟨true, "QA"⟩]]

end RequiredField

/-- A tenant with a tier requires a custom field, and the first good row ends the upload. -/
theorem required_field_ends_upload :
    import_environments RequiredField.ext RequiredField.db RequiredField.sheet 1 5 0 =
        .error (http 422 "Required custom field 'Cost centre' (cost_centre) is missing") ∧
      ¬ EnvironmentsIsolated RequiredField.ext RequiredField.db RequiredField.sheet 1 5 0 := by
  have hraised :
      import_environments RequiredField.ext RequiredField.db RequiredField.sheet 1 5 0 =
        .error (http 422 "Required custom field 'Cost centre' (cost_centre) is missing") :=
    eq_error_of_raises (by decide +kernel)
  refine ⟨hraised, ?_⟩
  rintro ⟨name_idx, -, db', counted, hok, -⟩
  have hupload : upload_environments RequiredField.ext RequiredField.db RequiredField.sheet.headers
      1 5 0 RequiredField.sheet.rows = .ok (db', counted) := hok
  have hsheet : (⟨RequiredField.sheet.headers, RequiredField.sheet.rows⟩ : Worksheet) =
      RequiredField.sheet := rfl
  rw [upload_environments, hsheet, hraised] at hupload
  cases hupload

end EnvMgr.Imports
