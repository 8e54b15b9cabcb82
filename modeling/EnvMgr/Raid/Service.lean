/-
The RAID log: `services/raid_service.py`, what creates, changes, promotes and deletes a
risk, an assumption, an issue or a dependency of a release.

The status of an item moves along the table `_TRANSITIONS` when an update names it, and
a promotion writes it without asking the table. Every write of a column leaves a row in
the history.
-/
import EnvMgr.Core.Directory
import EnvMgr.Lib.Table

namespace EnvMgr.Raid

/-! ## Tables -/

inductive ItemType
  | risk
  | assumption
  | issue
  | dependency
  deriving DecidableEq

/-- What a column holds, as the history keeps it. A JSON object is its text. -/
inductive Value
  | null
  | text (s : String)
  | number (n : ℤ)
  | flag (b : Bool)
  | instant (dt : DateTime)
  | json (text : String)
  deriving DecidableEq

/-- The columns that an update only copies. -/
inductive Column
  | title
  | description
  | target_date
  | review_date
  | probability
  | impact
  | response_strategy
  | mitigation_plan
  | contingency_plan
  | evidence
  | resolution_plan
  | escalated
  | direction
  | counterparty
  | due_date
  | at_risk
  | custom_fields
  deriving DecidableEq

def Column.name : Column → String
  | title => "title"
  | description => "description"
  | target_date => "target_date"
  | review_date => "review_date"
  | probability => "probability"
  | impact => "impact"
  | response_strategy => "response_strategy"
  | mitigation_plan => "mitigation_plan"
  | contingency_plan => "contingency_plan"
  | evidence => "evidence"
  | resolution_plan => "resolution_plan"
  | escalated => "escalated"
  | direction => "direction"
  | counterparty => "counterparty"
  | due_date => "due_date"
  | at_risk => "at_risk"
  | custom_fields => "custom_fields"

/-- Of the copied columns these take no null. -/
def Column.not_null : List Column := [.title, .escalated, .at_risk]

structure RaidItem where
  id : ℕ
  tenant_id : ℕ
  release_id : ℕ
  item_type : ItemType
  seq : ℕ
  status : String
  owner_id : Option ℕ
  raised_by : ℕ
  raised_at : DateTime
  closed_at : Option DateTime
  validation_status : Option String
  validated_at : Option DateTime
  resolved_at : Option DateTime
  release_dependency_id : Option ℕ
  promoted_from_id : Option ℕ
  columns : Column → Value
  deleted_at : Option DateTime

structure RaidItemHistory where
  id : ℕ
  tenant_id : ℕ
  raid_item_id : ℕ
  field_name : String
  old_value : Value
  new_value : Value
  changed_by : Option ℕ
  changed_at : DateTime
  deriving DecidableEq

structure User where
  id : ℕ
  tenant_id : ℕ
  deriving DecidableEq

structure ReleaseDependency where
  id : ℕ
  tenant_id : ℕ
  deriving DecidableEq

/-- The rows of other services that this one looks up. -/
structure Reference where
  releases : List Release
  users : List User
  release_dependencies : List ReleaseDependency

structure Db where
  reference : Reference
  items : Table RaidItem RaidItem.id
  history : Table RaidItemHistory RaidItemHistory.id

/-- A log nobody has written in. -/
def Db.opened (reference : Reference) : Db := ⟨reference, Table.empty, Table.empty⟩

/-! ## Transitions -/

/-- `promoted` is a terminal state of a risk that no arc leads to. -/
def _TRANSITIONS : ItemType → List (String × List String)
  | .risk =>
    [("open", ["mitigating", "closed"]), ("mitigating", ["closed", "open"]), ("closed", []),
      ("promoted", [])]
  | .assumption => [("open", ["closed"]), ("closed", ["open"])]
  | .issue =>
    [("open", ["in_progress", "closed"]), ("in_progress", ["resolved", "open"]),
      ("resolved", ["closed", "in_progress"]), ("closed", [])]
  | .dependency =>
    [("identified", ["in_progress", "closed"]), ("in_progress", ["met", "closed"]),
      ("met", ["closed"]), ("closed", [])]

/-- `_TRANSITIONS.get(item_type, {}).get(from_status, [])`. -/
def arcs (item_type : ItemType) (from_status : String) : List String :=
  ((_TRANSITIONS item_type).lookup from_status).getD []

def is_transition_allowed (item_type : ItemType) (from_status to_status : String) : Bool :=
  from_status = to_status || to_status ∈ arcs item_type from_status

def _TYPE_PREFIX : ItemType → String
  | .risk => "R"
  | .assumption => "A"
  | .issue => "I"
  | .dependency => "D"

def _INITIAL_STATUS : ItemType → String
  | .dependency => "identified"
  | _ => "open"

def ref_code (item : RaidItem) : String :=
  _TYPE_PREFIX item.item_type ++ "-" ++ zero_pad 3 item.seq

/-! ## Requests -/

structure RaidItemCreate where
  item_type : ItemType
  owner_id : Option ℕ
  release_dependency_id : Option ℕ
  /-- Null where the payload leaves a column out. -/
  columns : Column → Value

/-- Of the copied columns, `none` is one that was not sent. -/
structure RaidItemUpdate where
  columns : Column → Option Value
  status : Sent String
  owner_id : Sent ℕ
  validation_status : Sent String

/-! ## Look-ups -/

def _validate_owner (db : Db) (owner_id : Option ℕ) (tenant_id : ℕ) : Except Raised Unit :=
  match owner_id with
  | none => .ok ()
  | some owner_id =>
    raise_if (¬ ∃ u ∈ db.reference.users, u.id = owner_id ∧ u.tenant_id = tenant_id)
      (http 400 "owner_id must be a user in this tenant")

def _validate_release_dependency (db : Db) (dep_id : Option ℕ) (tenant_id : ℕ) :
    Except Raised Unit :=
  match dep_id with
  | none => .ok ()
  | some dep_id =>
    raise_if
      (¬ ∃ d ∈ db.reference.release_dependencies, d.id = dep_id ∧ d.tenant_id = tenant_id)
      (http 400 "release_dependency_id must belong to this tenant")

def _get_item (db : Db) (item_id tenant_id : ℕ) : Except Raised RaidItem :=
  get_or_raise
    (db.items.select_one fun i =>
      i.id = item_id ∧ i.tenant_id = tenant_id ∧ i.deleted_at = none)
    (http 404 "RAID item not found")

/-- `func.max(RaidItem.seq)`, deleted items included, and one more. -/
def next_seq (db : Db) (tenant_id release_id : ℕ) (item_type : ItemType) : ℕ :=
  ((db.items.select fun i =>
    i.tenant_id = tenant_id ∧ i.release_id = release_id ∧ i.item_type = item_type).map
      RaidItem.seq).foldl max 0 + 1

/-- `_record_history`. -/
def history_row (item : RaidItem) (field_name : String) (old new : Value) (user_id : ℕ)
    (now : DateTime) : Table.New RaidItemHistory.id where
  row id :=
    { id := id
      tenant_id := item.tenant_id
      raid_item_id := item.id
      field_name := field_name
      old_value := old
      new_value := new
      changed_by := if user_id = 0 then none else some user_id
      changed_at := now }
  key_row _ := rfl

/-! ## The service -/

def RaidItemCreate.row (data : RaidItemCreate) (tenant_id release_id seq user_id : ℕ)
    (now : DateTime) (id : ℕ) : RaidItem where
  id := id
  tenant_id := tenant_id
  release_id := release_id
  item_type := data.item_type
  seq := seq
  status := _INITIAL_STATUS data.item_type
  owner_id := data.owner_id
  raised_by := user_id
  raised_at := now
  closed_at := none
  validation_status := if data.item_type = .assumption then some "unvalidated" else none
  validated_at := none
  resolved_at := none
  release_dependency_id := data.release_dependency_id
  promoted_from_id := none
  -- the two flags are not in the payload and take their defaults
  columns column :=
    if column = .escalated ∨ column = .at_risk then .flag false else data.columns column
  deleted_at := none

def create_item (db : Db) (release_id : ℕ) (data : RaidItemCreate) (tenant_id user_id : ℕ)
    (now : DateTime) : Except Raised Db := do
  let _ ← get_release db.reference.releases release_id tenant_id
  _validate_owner db data.owner_id tenant_id
  _validate_release_dependency db data.release_dependency_id tenant_id
  let seq := next_seq db tenant_id release_id data.item_type
  let item := data.row tenant_id release_id seq user_id now db.items.next
  .ok { db with
    items := db.items.insert ⟨data.row tenant_id release_id seq user_id now, fun _ => rfl⟩
    history := db.history.insert
      (history_row item "created" .null (.text item.status) user_id now) }

def _PROMOTABLE : List (ItemType × ItemType) :=
  [(.risk, .issue), (.assumption, .risk), (.assumption, .issue)]

def ItemType.value : ItemType → String
  | risk => "risk"
  | assumption => "assumption"
  | issue => "issue"
  | dependency => "dependency"

/-- The item that a promotion makes. -/
def promoted_row (source : RaidItem) (target_type : ItemType) (seq user_id : ℕ) (now : DateTime)
    (id : ℕ) : RaidItem where
  id := id
  tenant_id := source.tenant_id
  release_id := source.release_id
  item_type := target_type
  seq := seq
  status := _INITIAL_STATUS target_type
  owner_id := source.owner_id
  raised_by := user_id
  raised_at := now
  closed_at := none
  validation_status := if target_type = .assumption then some "unvalidated" else none
  validated_at := none
  resolved_at := none
  release_dependency_id := none
  promoted_from_id := some source.id
  columns column :=
    match column with
    | .title | .description => source.columns column
    | .probability | .impact =>
      if target_type = .risk ∨ target_type = .issue then source.columns column else .null
    | .escalated | .at_risk => .flag false
    | _ => .null
  deleted_at := none

def promoted_new (source : RaidItem) (target_type : ItemType) (seq user_id : ℕ)
    (now : DateTime) : Table.New RaidItem.id :=
  ⟨promoted_row source target_type seq user_id now, fun _ => rfl⟩

/-- `source.status = "promoted"`. -/
def mark_promoted : Table.Edit RaidItem.id :=
  ⟨fun i => { i with status := "promoted" }, fun _ => rfl⟩

def promote_item (db : Db) (release_id item_id : ℕ) (target_type : ItemType)
    (tenant_id user_id : ℕ) (now : DateTime) : Except Raised Db := do
  let source ← _get_item db item_id tenant_id
  raise_if (source.release_id ≠ release_id) (http 404 "RAID item not found")
  raise_if ((source.item_type, target_type) ∉ _PROMOTABLE)
    (http 400 s!"cannot promote a {source.item_type.value} to a {target_type.value}")
  let seq := next_seq db tenant_id source.release_id target_type
  let new := promoted_row source target_type seq user_id now db.items.next
  let items := db.items.insert (promoted_new source target_type seq user_id now)
  let history := db.history.insert (history_row new "created" .null
    (.text ("promoted from " ++ ref_code source)) user_id now)
  if source.item_type = .risk then
    .ok { db with
      items := items.update (fun i => i.id = source.id) mark_promoted
      history := history.insert (history_row source "status" (.text source.status)
        (.text "promoted") user_id now) }
  else .ok { db with items := items, history := history }

/-- `Optional[str]` as the history keeps it. -/
def Value.of_text : Option String → Value
  | none => .null
  | some s => .text s

def Value.of_id : Option ℕ → Value
  | none => .null
  | some n => .number n

/-- What a copied column is after an update. -/
def RaidItemUpdate.column (data : RaidItemUpdate) (item : RaidItem) (column : Column) : Value :=
  (data.columns column).getD (item.columns column)

/-- A column, what it was and what it becomes. -/
abbrev Change := String × Value × Value

def RaidItemUpdate.copied (data : RaidItemUpdate) (item : RaidItem) (columns : List Column) :
    List Change :=
  columns.map fun column => (column.name, item.columns column, data.column item column)

/-- The columns of the payload, in the order of the schema. -/
def RaidItemUpdate.values (data : RaidItemUpdate) (item : RaidItem) : List Change :=
  data.copied item [.title, .description] ++
  [("status", .text item.status, .text (data.status.set_required item.status)),
    ("owner_id", .of_id item.owner_id, .of_id (data.owner_id.set_nullable item.owner_id))] ++
  data.copied item [.target_date, .review_date, .probability, .impact, .response_strategy,
    .mitigation_plan, .contingency_plan] ++
  [("validation_status", .of_text item.validation_status,
    .of_text (data.validation_status.set_nullable item.validation_status))] ++
  data.copied item [.evidence, .resolution_plan, .escalated, .direction, .counterparty, .due_date,
    .at_risk, .custom_fields]

/-- What the loop over `update_data` records: the columns that change. -/
def changes (data : RaidItemUpdate) (item : RaidItem) : List Change :=
  (data.values item).filter fun change => change.2.1 ≠ change.2.2

/-- What the loop sets. -/
def RaidItemUpdate.assign (data : RaidItemUpdate) (item : RaidItem) : RaidItem :=
  { item with
    columns := data.column item
    status := data.status.set_required item.status
    owner_id := data.owner_id.set_nullable item.owner_id
    validation_status := data.validation_status.set_nullable item.validation_status }

/-- The side-effect timestamps. -/
def RaidItem.stamp (item : RaidItem) (now : DateTime) : RaidItem :=
  { item with
    closed_at := if item.status = "closed" ∧ item.closed_at = none then some now
      else item.closed_at
    resolved_at := if item.item_type = .issue ∧ item.status = "resolved" ∧ item.resolved_at = none
      then some now else item.resolved_at
    validated_at := if item.item_type = .assumption ∧ item.validation_status = some "validated" ∧
      item.validated_at = none then some now else item.validated_at }

def update_item (db : Db) (item_id : ℕ) (data : RaidItemUpdate) (tenant_id user_id : ℕ)
    (now : DateTime) : Except Raised Db := do
  let item ← _get_item db item_id tenant_id
  raise_if (data.status = .null ∨
      is_transition_allowed item.item_type item.status (data.status.set_required item.status)
        = false)
    (http 422 "invalid status transition")
  _validate_owner db (data.owner_id.set_nullable none) tenant_id
  raise_if (∃ column ∈ Column.not_null, data.columns column = some .null) .IntegrityError
  .ok { db with
    items := db.items.update (fun i => i.id = item.id)
      ⟨fun i => (data.assign i).stamp now, fun _ => rfl⟩
    history := db.history.insert_all
      ((changes data item).map fun change =>
        history_row item change.1 change.2.1 change.2.2 user_id now) }

def delete_item (db : Db) (item_id tenant_id : ℕ) (now : DateTime) : Except Raised Db := do
  let item ← _get_item db item_id tenant_id
  .ok { db with
    items := db.items.update (fun i => i.id = item.id)
      ⟨fun i => { i with deleted_at := some now }, fun _ => rfl⟩ }

/-! ## The routes -/

inductive Request
  | create_raid (release_id : ℕ) (data : RaidItemCreate)
  | update_raid (release_id item_id : ℕ) (data : RaidItemUpdate)
  | promote_raid (release_id item_id : ℕ) (target_type : ItemType)
  | delete_raid (release_id item_id : ℕ)

def _assert_in_release (item : RaidItem) (release_id : ℕ) : Except Raised Unit :=
  raise_if (item.release_id ≠ release_id) (http 404 "RAID item not found")

/-- The item a route is about, before it is handed to the service. -/
def item_of_route (db : Db) (release_id item_id tenant_id : ℕ) : Except Raised Unit := do
  let _ ← get_release db.reference.releases release_id tenant_id
  let item ← _get_item db item_id tenant_id
  _assert_in_release item release_id

/-- A request, who makes it and when. -/
structure Call where
  current_user : CurrentUser
  request : Request
  now : DateTime

def handle (db : Db) (call : Call) : Except Raised Db := do
  let user := call.current_user
  require_role Role.ADMIN user
  match call.request with
  | .create_raid release_id data =>
    create_item db release_id data user.active_tenant_id user.id call.now
  | .update_raid release_id item_id data => do
    item_of_route db release_id item_id user.active_tenant_id
    update_item db item_id data user.active_tenant_id user.id call.now
  | .promote_raid release_id item_id target_type => do
    let _ ← get_release db.reference.releases release_id user.active_tenant_id
    promote_item db release_id item_id target_type user.active_tenant_id user.id call.now
  | .delete_raid release_id item_id => do
    item_of_route db release_id item_id user.active_tenant_id
    delete_item db item_id user.active_tenant_id call.now

def step (db : Db) (call : Call) : Db := commit_or_rollback db (handle db call)

/-- The request is answered. -/
def Accepted (db : Db) (call : Call) : Prop := ∃ db', handle db call = .ok db'

end EnvMgr.Raid
