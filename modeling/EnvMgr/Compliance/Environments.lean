/-
Every path that writes an environment's name: `services/environment_service.py`,
`services/excel_import_service.py`, `services/environment_request_service.py`, and the
policy save that judges all names anew.

Only the interactive paths refuse a name that the pattern does not match. The import and
the fulfilment of a request record the verdict and go on.
-/
import EnvMgr.Compliance.Policy

namespace EnvMgr.Compliance

open Bookings (Json validate_custom_fields)
open Lifecycle (LifecycleTemplate require_tenant_admin scalar_one_or_none validate_transition)

/-! ## Look-ups and checks -/

def get_environment (db : Db) (env_id tenant_id : ℕ) : Except Raised Environment :=
  get_or_raise
    (db.environments.select_one fun env =>
      env.id = env_id && (env.tenant_id = tenant_id && env.live))
    (http 404 "Environment not found")

/-- A live tier of the tenant. -/
def check_tier (db : Db) (tenant_id : ℕ) (tier_id : Option ℕ) : Except Raised Unit :=
  for_each tier_id.toList fun id =>
    raise_if (¬ ∃ t ∈ db.reference.tiers, t.id = id ∧ t.tenant_id = tenant_id ∧ t.deleted_at = none)
      (http 404 "Environment tier not found")

/-- A team that is stored already is not looked up again. -/
def _validate_client_foreign_keys (db : Db) (tenant_id : ℕ)
    (tier_id owner_user_id operations_group_id current_operations_group_id : Option ℕ) :
    Except Raised Unit := do
  check_tier db tenant_id tier_id
  for_each owner_user_id.toList fun id =>
    raise_if (¬ ∃ u ∈ db.reference.users, u.id = id ∧ u.tenant_id = tenant_id)
      (http 404 "Owner not found")
  for_each operations_group_id.toList fun id =>
    if some id = current_operations_group_id then .ok ()
    else get_group db.reference.user_groups id tenant_id >>= fun _ => .ok ()

def assert_name_available (db : Db) (tenant_id : ℕ) (name : String) : Except Raised Unit :=
  raise_if (∃ env ∈ db.environments, env.name = name ∧ env.tenant_id = tenant_id ∧ env.live = true)
    (http 409 s!"An environment named '{name}' already exists in this tenant.")

/-! ## Creating -/

/-- The keyword arguments of `create_environment_record`. -/
structure EnvironmentRecord where
  name : String
  tier_id : ℕ
  description : Option String
  owner_user_id : Option ℕ
  operations_group_id : Option ℕ
  expires_at : Option DateTime
  env_status : EnvironmentStatus
  custom_fields : Option (Dict Json)
  deriving DecidableEq

def EnvironmentRecord.row (r : EnvironmentRecord) (tenant_id : ℕ) (name_compliant : Option Bool)
    (now : DateTime) (id : ℕ) : Environment where
  id := id
  tenant_id := tenant_id
  name := r.name
  description := r.description
  tier_id := r.tier_id
  owner_user_id := r.owner_user_id
  operations_group_id := r.operations_group_id
  expires_at := r.expires_at
  status := r.env_status
  custom_fields := r.custom_fields
  name_compliant := name_compliant
  created_at := now
  deleted_at := none

/-- `db.add(Environment(..))`, with the verdict of the policy of its tenant. -/
def add_environment (ext : External) (db : Db) (tenant_id : ℕ) (r : EnvironmentRecord)
    (now : DateTime) : Db :=
  { db with
    environments := db.environments.insert
      ⟨r.row tenant_id (evaluate_name ext (load_policy db tenant_id) r.name) now, fun _ => rfl⟩ }

def create_environment_record (ext : External) (db : Db) (tenant_id : ℕ) (r : EnvironmentRecord)
    (now : DateTime) : Except Raised Db := do
  assert_name_available db tenant_id r.name
  validate_custom_fields db.custom tenant_id "environment" r.custom_fields none
  _validate_client_foreign_keys db tenant_id (some r.tier_id) r.owner_user_id
    r.operations_group_id none
  -- `name: String(200)`: PostgreSQL takes nothing longer
  raise_if (r.name.length > MAX_NAME_LENGTH) .StatementError
  .ok (add_environment ext db tenant_id r now)

structure EnvironmentCreate where
  name : String
  description : Option String
  tier_id : ℕ
  owner_user_id : ℕ
  operations_group_id : Option ℕ
  expires_at : DateTime
  status : EnvironmentStatus
  custom_fields : Option (Dict Json)
  deriving DecidableEq

def create_environment (ext : External) (db : Db) (data : EnvironmentCreate) (tenant_id : ℕ)
    (now : DateTime) : Except Raised Db := do
  assert_name_allowed ext (load_policy db tenant_id) data.name none
  create_environment_record ext db tenant_id
    { name := data.name
      tier_id := data.tier_id
      description := data.description
      owner_user_id := some data.owner_user_id
      operations_group_id := data.operations_group_id
      expires_at := some data.expires_at
      env_status := data.status
      custom_fields := data.custom_fields } now

/-! ## Updating and deleting -/

structure EnvironmentUpdate where
  name : Option String
  description : Option String
  tier_id : Option ℕ
  owner_user_id : Sent ℕ
  operations_group_id : Sent ℕ
  expires_at : Sent DateTime
  status : Option EnvironmentStatus
  custom_fields : Option (Dict Json)
  deriving DecidableEq

/-- The name after the update, and the verdict on it. Only a changed name is judged. -/
def rename (ext : External) (db : Db) (env : Environment) (tenant_id : ℕ) :
    Option String → Except Raised (String × Option Bool)
  | none => .ok (env.name, env.name_compliant)
  | some name =>
    if name = env.name then .ok (env.name, env.name_compliant)
    else do
      let existing ← scalar_one_or_none (db.environments.select fun other =>
        other.name = name && (other.tenant_id = tenant_id && (other.id ≠ env.id && other.live)))
      raise_if (existing ≠ none)
        (http 409 "An environment with this name already exists in this tenant")
      assert_name_allowed ext (load_policy db tenant_id) name (some env.name)
      .ok (name, evaluate_name ext (load_policy db tenant_id) name)

def EnvironmentUpdate.set (data : EnvironmentUpdate) (named : String × Option Bool)
    (env : Environment) : Environment :=
  { env with
    name := named.1
    name_compliant := named.2
    tier_id := data.tier_id.getD env.tier_id
    owner_user_id := data.owner_user_id.set_nullable env.owner_user_id
    operations_group_id := data.operations_group_id.set_nullable env.operations_group_id
    expires_at := data.expires_at.set_nullable env.expires_at
    description := data.description.or env.description
    status := data.status.getD env.status
    custom_fields := data.custom_fields.or env.custom_fields }

def update_environment (ext : External) (db : Db) (env_id : ℕ) (data : EnvironmentUpdate)
    (tenant_id : ℕ) : Except Raised Db := do
  let env ← get_environment db env_id tenant_id
  let named ← rename ext db env tenant_id data.name
  let effective_owner := data.owner_user_id.set_nullable env.owner_user_id
  raise_if (effective_owner = none)
    (http 422 ("An environment must have a named owner. "
      ++ "Supply owner_user_id with this change."))
  _validate_client_foreign_keys db tenant_id data.tier_id effective_owner
    (data.operations_group_id.set_nullable none) env.operations_group_id
  for_each data.custom_fields.toList fun values =>
    validate_custom_fields db.custom tenant_id "environment" (some values) none
  .ok { db with
    environments := db.environments.update (fun e => e.id = env.id)
      ⟨data.set named, fun _ => rfl⟩ }

def delete_environment (db : Db) (env_id tenant_id : ℕ) (now : DateTime) : Except Raised Db := do
  let env ← get_environment db env_id tenant_id
  .ok { db with
    environments := db.environments.update (fun e => e.id = env.id)
      { apply e := { e with deleted_at := some now }, key_apply _ := rfl } }

/-! ## Importing a spreadsheet -/

/-- The value of a cell: whether it is true, and its `str`. -/
structure Cell where
  truthy : Bool
  str : String
  deriving DecidableEq

structure Worksheet where
  headers : List (Option Cell)
  rows : List (List (Option Cell))
  deriving DecidableEq

structure RowMessage where
  row : ℕ
  field : String
  message : String
  deriving DecidableEq

structure ImportResult where
  created : ℕ
  skipped : ℕ
  errors : List RowMessage
  tier_fallbacks : List RowMessage
  deriving DecidableEq

/-- The column of a header, in any case. -/
def _find_col (ext : External) (headers : List (Option Cell)) (name : String) : Option ℕ :=
  headers.findIdx? fun h =>
    h.any fun cell => ext.lower (strip cell.str) = ext.lower name

/-- `row[idx]`, where there is such a column and the cell is not empty. -/
def cell_at (row : List (Option Cell)) (idx : Option ℕ) : Option Cell :=
  idx.bind fun i => (row[i]?).join

/-- What one upload is resolved against. -/
structure ImportContext where
  tenant_id : ℕ
  tiers : List EnvironmentTier
  owner_user_id : Option ℕ
  name_idx : ℕ
  type_idx : Option ℕ
  desc_idx : Option ℕ

/-- `tier_by_name.get(name)`: of two tiers with one name the dictionary keeps the last. -/
def ImportContext.tier_by_name (ext : External) (c : ImportContext) (name : String) :
    Option EnvironmentTier :=
  c.tiers.reverse.find? fun t => ext.lower (strip t.name) = name

def ImportContext.other_tier (ext : External) (c : ImportContext) : Option EnvironmentTier :=
  (c.tiers.find? fun t => t.category = "other").or (c.tier_by_name ext "other")

def ImportResult.error (result : ImportResult) (row : ℕ) (field message : String) : ImportResult :=
  { result with errors := result.errors ++ [⟨row, field, message⟩] }

/-- What is reported of a row that was created. -/
def fallbacks (row_num : ℕ) (env_type : String) (matched_tier : Option EnvironmentTier)
    (owner_user_id : Option ℕ) : List RowMessage :=
  (if matched_tier = none then
    [⟨row_num, "Type",
      if env_type ≠ "" then
        s!"Unrecognised type '{env_type}' — filed under the " ++ "tenant's Other tier"
      else "No type specified — filed under the tenant's Other tier"⟩]
  else []) ++
    if owner_user_id = none then
      [⟨row_num, "Owner",
        "Importing user is not a member of this tenant — " ++ "imported without an owner"⟩]
    else []

/-- A row whose name and tier are known. A `ValueError` is reported and the upload goes on;
whatever else is raised ends it. -/
def import_named (ext : External) (c : ImportContext) (now : DateTime) (db : Db)
    (result : ImportResult) (row_num : ℕ) (name_str env_type : String)
    (matched_tier : Option EnvironmentTier) (tier : EnvironmentTier)
    (description : Option String) : Except Raised (Db × ImportResult) := do
  let existing ← scalar_one_or_none (db.environments.select fun env =>
    env.name = name_str && (env.tenant_id = c.tenant_id && env.live))
  if existing ≠ none then .ok (db, { result with skipped := result.skipped + 1 })
  else
    match create_environment_record ext db c.tenant_id
        { name := name_str
          tier_id := tier.id
          description := truthy description
          owner_user_id := c.owner_user_id
          operations_group_id := none
          expires_at := none
          env_status := .active
          custom_fields := none } now with
    | .ok db' =>
      .ok (db',
        { result with
          created := result.created + 1
          tier_fallbacks := result.tier_fallbacks
            ++ fallbacks row_num env_type matched_tier c.owner_user_id })
    | .error .ValueError => .ok (db, result.error row_num "general" "ValueError")
    | .error e => .error e

def import_row (ext : External) (c : ImportContext) (now : DateTime) (s : Db × ImportResult)
    (numbered : List (Option Cell) × ℕ) : Except Raised (Db × ImportResult) :=
  let (db, result) := s
  let (row, row_num) := numbered
  if row.all Option.isNone then .ok s
  else
    match (cell_at row (some c.name_idx)).filter fun cell => cell.truthy && strip cell.str ≠ "" with
    | none => .ok (db, result.error row_num "Name" "Name is required")
    | some name =>
      let env_type := ((cell_at row c.type_idx).map fun cell => strip cell.str).getD ""
      let matched_tier := c.tier_by_name ext (ext.lower (strip env_type))
      match matched_tier.or (c.other_tier ext) with
      | none =>
        .ok (db, result.error row_num "Type"
          (s!"Unknown environment type '{env_type}' and this tenant has "
            ++ "no 'Other' tier to fall back to"))
      | some tier =>
        import_named ext c now db result row_num (strip name.str) env_type matched_tier tier
          ((cell_at row c.desc_idx).map fun cell => strip cell.str)

def import_environments (ext : External) (db : Db) (ws : Worksheet)
    (tenant_id imported_by_user_id : ℕ) (now : DateTime) : Except Raised (Db × ImportResult) := do
  let name_idx ← get_or_raise (_find_col ext ws.headers "Name")
    (http 400 "Missing required column: 'Name'")
  let tiers := db.reference.tiers.filter fun t => t.tenant_id = tenant_id ∧ t.deleted_at = none
  raise_if (tiers = [])
    (http 422 ("This tenant has no environment tiers configured, so imported "
      ++ "environments cannot be assigned one."))
  let importer := db.reference.users.find? fun u => u.id = imported_by_user_id
  let owner := if importer.map User.tenant_id = some tenant_id then some imported_by_user_id else none
  let context : ImportContext :=
    { tenant_id := tenant_id
      tiers := tiers
      owner_user_id := owner
      name_idx := name_idx
      type_idx := _find_col ext ws.headers "Type"
      desc_idx := _find_col ext ws.headers "Description" }
  (ws.rows.zipIdx 2).foldlM (import_row ext context now) (db, ⟨0, 0, [], []⟩)

/-! ## Environment requests -/

def get_request_view (db : Db) (request_id tenant_id : ℕ) : Except Raised EnvironmentRequest :=
  get_or_raise
    (db.requests.select_one fun r =>
      r.id = request_id ∧ r.tenant_id = tenant_id ∧ r.deleted_at = none)
    (http 404 "Request not found")

def _assert_targets_are_ours (db : Db) (tenant_id : ℕ)
    (environment_id tier_id operations_group_id : Option ℕ) : Except Raised Unit := do
  for_each environment_id.toList fun id => get_environment db id tenant_id >>= fun _ => .ok ()
  check_tier db tenant_id tier_id
  for_each operations_group_id.toList fun id =>
    get_group db.reference.user_groups id tenant_id >>= fun _ => .ok ()

/-- The fields that a request of this kind lacks. -/
def missing_fields (kind : RequestKind) (environment_id : Option ℕ) (proposed_name : Option String)
    (tier_id : Option ℕ) (expires_at : Option DateTime) : List String :=
  match kind with
  | .access => if environment_id = none then ["environment_id"] else []
  | .new_environment =>
    (if truthy proposed_name = none then ["proposed_name"] else [])
      ++ (if tier_id = none then ["tier_id"] else [])
      ++ if expires_at = none then ["expires_at"] else []

def _assert_mode_fields (kind : RequestKind) (environment_id : Option ℕ)
    (proposed_name : Option String) (tier_id : Option ℕ) (expires_at : Option DateTime) :
    Except Raised Unit :=
  let missing := missing_fields kind environment_id proposed_name tier_id expires_at
  let article := match kind with
    | .access => "An"
    | .new_environment => "A"
  raise_if (missing ≠ [])
    (http 422 (s!"{article} '{kind.value}' request requires: " ++ ", ".intercalate missing))

def ENTITY_TYPE : String := "environment_request"

def _default_lifecycle (db : Db) (tenant_id : ℕ) : Except Raised LifecycleTemplate :=
  get_or_raise
    (order_by (fun t => toLex (!t.is_default, t.id)) (db.reference.templates.filter fun t =>
      t.tenant_id = tenant_id ∧ t.entity_type = ENTITY_TYPE ∧ t.deleted_at = none)).head?
    (http 400 "This tenant has no environment-request lifecycle configured")

def _initial_state (tpl : LifecycleTemplate) : Except Raised String := do
  let s ← get_or_raise (tpl.definition.states.find? fun s => s.flag "is_initial")
    (http 500 "Lifecycle template has no initial state")
  .ok s.key

structure EnvironmentRequestCreate where
  kind : RequestKind
  justification : String
  needed_by : Option DateTime
  environment_id : Option ℕ
  proposed_name : Option String
  tier_id : Option ℕ
  expires_at : Option DateTime
  deriving DecidableEq

def EnvironmentRequestCreate.row (data : EnvironmentRequestCreate) (requested_by tenant_id : ℕ)
    (status : String) (lifecycle_id id : ℕ) : EnvironmentRequest where
  id := id
  tenant_id := tenant_id
  kind := data.kind
  status := status
  lifecycle_id := lifecycle_id
  requested_by := requested_by
  justification := data.justification
  needed_by := data.needed_by
  environment_id := if data.kind = .access then data.environment_id else none
  proposed_name := if data.kind = .new_environment then data.proposed_name else none
  tier_id := if data.kind = .new_environment then data.tier_id else none
  expires_at := if data.kind = .new_environment then data.expires_at else none
  operations_group_id := none
  created_environment_id := none
  deleted_at := none

def create_request (db : Db) (data : EnvironmentRequestCreate) (requested_by tenant_id : ℕ) :
    Except Raised Db := do
  _assert_mode_fields data.kind data.environment_id data.proposed_name data.tier_id data.expires_at
  _assert_targets_are_ours db tenant_id data.environment_id data.tier_id none
  let tpl ← _default_lifecycle db tenant_id
  let status ← _initial_state tpl
  .ok { db with
    requests := db.requests.insert
      ⟨data.row requested_by tenant_id status tpl.id, fun _ => rfl⟩ }

structure EnvironmentRequestUpdate where
  justification : Sent String
  needed_by : Sent DateTime
  environment_id : Sent ℕ
  proposed_name : Sent String
  tier_id : Sent ℕ
  expires_at : Sent DateTime
  operations_group_id : Sent ℕ
  deriving DecidableEq

/-- Something is sent, and nothing but the team and the proposed name. -/
def EnvironmentRequestUpdate.recoverable_fields_only (data : EnvironmentRequestUpdate) : Bool :=
  (data.operations_group_id.mentioned || data.proposed_name.mentioned)
    && !(data.justification.mentioned || data.needed_by.mentioned || data.environment_id.mentioned
      || data.tier_id.mentioned || data.expires_at.mentioned)

/-- What was sent, and no value in a field of the other kind. -/
def EnvironmentRequestUpdate.set (data : EnvironmentRequestUpdate) (r : EnvironmentRequest) :
    EnvironmentRequest :=
  let access := r.kind = .access
  { r with
    justification := data.justification.set_required r.justification
    needed_by := data.needed_by.set_nullable r.needed_by
    environment_id := if access then data.environment_id.set_nullable r.environment_id else none
    proposed_name := if access then none else data.proposed_name.set_nullable r.proposed_name
    tier_id := if access then none else data.tier_id.set_nullable r.tier_id
    expires_at := if access then none else data.expires_at.set_nullable r.expires_at
    operations_group_id := data.operations_group_id.set_nullable r.operations_group_id }

def update_request (db : Db) (request_id : ℕ) (data : EnvironmentRequestUpdate)
    (current_user : CurrentUser) (tenant_id : ℕ) : Except Raised Db := do
  let req ← get_request_view db request_id tenant_id
  let is_admin := current_user.role = Role.ADMIN
  raise_if (req.requested_by ≠ current_user.id ∧ ¬ is_admin)
    (http 403 "Only the requester or an admin can edit this request")
  let recoverable_group_fix := data.recoverable_fields_only = true ∧ is_admin ∧
    req.kind = .new_environment ∧ req.status ∈ ["submitted", "approved"]
  raise_if (req.status ≠ "draft" ∧ ¬ recoverable_group_fix)
    (http 409 ("A request can only be edited while it is a draft (this one is "
      ++ s!"'{req.status}'), except that an admin may assign the "
      ++ "operations group and/or rename the proposed environment on a "
      ++ "submitted or approved new-environment request."))
  raise_if (data.justification = .null) (http 422 "justification cannot be cleared")
  _assert_targets_are_ours db tenant_id (data.environment_id.set_nullable none)
    (data.tier_id.set_nullable none) (data.operations_group_id.set_nullable none)
  let r := data.set req
  _assert_mode_fields r.kind r.environment_id r.proposed_name r.tier_id r.expires_at
  .ok { db with
    requests := db.requests.update (fun r => r.id = req.id) ⟨data.set, fun _ => rfl⟩ }

/-! ## Transitions of a request -/

def APPROVAL_TARGET_STATES : List String := ["approved", "rejected", "fulfilled"]

def _get_template_for_request (db : Db) (req : EnvironmentRequest) (tenant_id : ℕ) :
    Option LifecycleTemplate :=
  db.reference.templates.find? fun t =>
    t.id = req.lifecycle_id ∧ t.tenant_id = tenant_id ∧ t.deleted_at = none

def _is_in_operations_group (db : Db) (environment_id : Option ℕ) (user_id tenant_id : ℕ) : Bool :=
  ∃ env ∈ db.environments, some env.id = environment_id ∧ env.tenant_id = tenant_id ∧
    ∃ m ∈ db.reference.group_members, some m.group_id = env.operations_group_id ∧
      m.user_id = user_id ∧ m.tenant_id = tenant_id

/-- `needle in s`. -/
def is_in (needle s : String) : Bool := s.toList.tails.any fun t => needle.toList.isPrefixOf t

def assert_may_transition (ext : External) (db : Db) (req : EnvironmentRequest) (to_state : String)
    (current_user : CurrentUser) (tenant_id : ℕ) : Except Raised Unit := do
  let tpl ← get_or_raise (_get_template_for_request db req tenant_id)
    (http 400 "Lifecycle template not found")
  let (allowed, reason) ← validate_transition tpl.definition req.status to_state current_user.role
    ⟨Dict.empty, Dict.empty⟩
  raise_if (allowed = false ∧
      reason.any (fun text => is_in "not allowed" text || is_in "role" (ext.lower text)) = true)
    (http 403 "Your role cannot make this transition")
  raise_if (allowed = false)
    (http 400 ((truthy reason).getD
      s!"Transition from '{req.status}' to '{to_state}' is not allowed"))
  let is_admin := current_user.role = Role.ADMIN ∨ current_user.is_master_admin = true
  raise_if (to_state ∈ APPROVAL_TARGET_STATES ∧ ¬ is_admin ∧
      _is_in_operations_group db req.environment_id current_user.id tenant_id = false)
    (http 403 ("Only the operating team for this environment, or an admin, "
      ++ "can action this request"))

def _assert_routable (db : Db) (req : EnvironmentRequest) (tenant_id : ℕ) : Except Raised Unit :=
  match req.kind, req.environment_id with
  | .access, some id => do
    let env ← get_or_raise
      (db.environments.select_one fun env => env.id = id ∧ env.tenant_id = tenant_id)
      (http 404 "Environment not found")
    raise_if (env.operations_group_id = none)
      (http 409 (s!"{env.name} has no operations team, so this request cannot be routed. "
        ++ "Ask an admin to assign one."))
  | _, _ => .ok ()

/-- The row that is asked for, or nothing where a column that takes no null lacks a
value. -/
def EnvironmentRequest.record (req : EnvironmentRequest) : Option EnvironmentRecord :=
  match req.proposed_name, req.tier_id with
  | some name, some tier_id =>
    some
      { name := name
        tier_id := tier_id
        description := some req.justification
        owner_user_id := some req.requested_by
        operations_group_id := req.operations_group_id
        expires_at := req.expires_at
        env_status := .inactive
        custom_fields := none }
  | _, _ => none

def _fulfil_new_environment (ext : External) (db : Db) (req : EnvironmentRequest) (tenant_id : ℕ)
    (now : DateTime) : Except Raised Db := do
  raise_if (req.operations_group_id = none)
    (http 409 ("This request has no operations team assigned. An admin must "
      ++ "choose which team will operate the environment before it can be "
      ++ "fulfilled."))
  _assert_targets_are_ours db tenant_id none req.tier_id req.operations_group_id
  raise_if (¬ ∃ u ∈ db.reference.users, u.id = req.requested_by ∧ u.tenant_id = tenant_id)
    (http 409 ("The user who raised this request does not belong to this "
      ++ "tenant, so it cannot be fulfilled as-is. This can happen when a "
      ++ "master admin raises a request while impersonating a tenant "
      ++ "other than their own."))
  for_each req.proposed_name.toList fun name => assert_name_available db tenant_id name
  let name := req.proposed_name.getD "None"
  let r ← get_or_raise req.record
    (http 409 (s!"Could not create an environment named '{name}' " ++ "for this request."))
  .ok (add_environment ext db tenant_id r now)

/-- The environment that was created, if one was, has the key before the next. -/
def set_status (db : Db) (req : EnvironmentRequest) (to_state : String) (created : Option ℕ) : Db :=
  { db with
    requests := db.requests.update (fun r => r.id = req.id)
      { apply r :=
          { r with
            status := to_state
            created_environment_id := created.or r.created_environment_id }
        key_apply _ := rfl } }

def transition (ext : External) (db : Db) (request_id : ℕ) (to_state : String)
    (current_user : CurrentUser) (tenant_id : ℕ) (now : DateTime) : Except Raised Db := do
  let req ← get_request_view db request_id tenant_id
  assert_may_transition ext db req to_state current_user tenant_id
  if to_state = "submitted" then do
    _assert_routable db req tenant_id
    for_each (truthy req.proposed_name).toList fun name =>
      assert_name_allowed ext (load_policy db tenant_id) name none
    .ok (set_status db req to_state none)
  else if to_state = "fulfilled" ∧ req.kind = .new_environment then do
    let db' ← _fulfil_new_environment ext db req tenant_id now
    .ok (set_status db' req to_state (some db.environments.next))
  else .ok (set_status db req to_state none)

/-! ## The routes -/

/-- `others` is any write of other services to the rows that are only looked up here. -/
inductive Request
  | create_environment (user : CurrentUser) (data : EnvironmentCreate) (now : DateTime)
  | update_environment (user : CurrentUser) (env_id : ℕ) (data : EnvironmentUpdate)
  | delete_environment (user : CurrentUser) (env_id : ℕ) (now : DateTime)
  | import_environments (user : CurrentUser) (file : Worksheet) (now : DateTime)
  | put_environment_naming_policy (user : CurrentUser) (data : EnvironmentNamingPolicyUpdate)
      (now : DateTime)
  | create_environment_request (user : CurrentUser) (data : EnvironmentRequestCreate)
  | update_environment_request (user : CurrentUser) (request_id : ℕ)
      (data : EnvironmentRequestUpdate)
  | transition_environment_request (user : CurrentUser) (request_id : ℕ) (to_state : String)
      (now : DateTime)
  | others (reference : Reference)

def handle (ext : External) (db : Db) : Request → Except Raised Db
  | .create_environment user data now => do
    require_tenant_admin user
    create_environment ext db data user.active_tenant_id now
  | .update_environment user env_id data => do
    require_tenant_admin user
    update_environment ext db env_id data user.active_tenant_id
  | .delete_environment user env_id now => do
    require_tenant_admin user
    delete_environment db env_id user.active_tenant_id now
  | .import_environments user file now => do
    require_tenant_admin user
    let (db', _) ← import_environments ext db file user.active_tenant_id user.id now
    .ok db'
  | .put_environment_naming_policy user data now => do
    require_tenant_admin user
    upsert_policy ext db user.active_tenant_id data now
  | .create_environment_request user data =>
    create_request db data user.id user.active_tenant_id
  | .update_environment_request user request_id data =>
    update_request db request_id data user user.active_tenant_id
  | .transition_environment_request user request_id to_state now =>
    transition ext db request_id to_state user user.active_tenant_id now
  | .others reference => .ok { db with reference := reference }

def step (ext : External) (db : Db) (request : Request) : Db :=
  commit_or_rollback db (handle ext db request)

end EnvMgr.Compliance
