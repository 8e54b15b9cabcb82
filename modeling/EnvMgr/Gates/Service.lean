/-
Release gates and their criteria: `services/release_gate_service.py` and
`services/gate_criterion_service.py`.

A gate is decided by hand, or passes by itself when the last of its criteria is completed.
-/
import EnvMgr.Core.Directory
import EnvMgr.Lib.Table

namespace EnvMgr.Gates

/-! ## Tables -/

structure ReleaseGate where
  id : ℕ
  tenant_id : ℕ
  release_id : ℕ
  name : String
  due_date : DateTime
  status : String
  decided_by : Option ℕ
  decided_at : Option DateTime
  decision_notes : Option String
  gate_type_id : Option ℕ
  test_phase_id : Option ℕ
  deleted_at : Option DateTime
  deriving DecidableEq

structure GateCriterion where
  id : ℕ
  tenant_id : ℕ
  gate_id : ℕ
  title : String
  notes : Option String
  assigned_to_user_id : Option ℕ
  assigned_role : Option String
  status : String
  completed_at : Option DateTime
  completed_by_user_id : Option ℕ
  deleted_at : Option DateTime
  deriving DecidableEq

structure GateWaiver where
  id : ℕ
  tenant_id : ℕ
  gate_id : ℕ
  reason : String
  approved_by_user_id : ℕ
  expires_at : Option DateTime
  remediation : Option String
  created_by : ℕ
  deriving DecidableEq

structure ReleaseEvent where
  id : ℕ
  tenant_id : ℕ
  release_id : ℕ
  event_type_id : ℕ
  description : String
  occurred_at : DateTime
  recorded_by : ℕ
  deriving DecidableEq

structure User where
  id : ℕ
  tenant_id : ℕ
  deriving DecidableEq

/-- A gate type or a test phase. -/
structure Archivable where
  id : ℕ
  tenant_id : ℕ
  deleted_at : Option DateTime
  deriving DecidableEq

structure ReleaseEventType where
  id : ℕ
  tenant_id : ℕ
  name : String
  deleted_at : Option DateTime
  deriving DecidableEq

/-- The rows of other services that these two look up. -/
structure Reference where
  releases : List Release
  users : List User
  gate_types : List Archivable
  test_phases : List Archivable
  release_event_types : List ReleaseEventType

structure Db where
  reference : Reference
  gates : Table ReleaseGate ReleaseGate.id
  criteria : Table GateCriterion GateCriterion.id
  waivers : Table GateWaiver GateWaiver.id
  events : Table ReleaseEvent ReleaseEvent.id

def Db.opened (reference : Reference) : Db :=
  ⟨reference, Table.empty, Table.empty, Table.empty, Table.empty⟩

/-! ## Payloads -/

def _VALID_ROLES : List String :=
  [Role.ADMIN, Role.RELEASE_MANAGER, Role.TEST_MANAGER, Role.DEVELOPER, Role.VIEWER]

structure GateCriterionCreate where
  title : String
  notes : Option String
  assigned_to_user_id : Option ℕ
  assigned_role : Option String
  title_length : title.length ≤ 250
  valid_role : ∀ role ∈ assigned_role, role ∈ _VALID_ROLES
  one_assignee : assigned_role = none ∨ assigned_to_user_id = none

structure GateCriterionUpdate where
  title : Sent String
  notes : Sent String
  assigned_to_user_id : Sent ℕ
  assigned_role : Sent String
  title_length : ∀ t, title = .value t → t.length ≤ 250
  valid_role : ∀ role, assigned_role = .value role → role ∈ _VALID_ROLES
  one_assignee : ∀ role user_id,
    ¬ (assigned_role = .value role ∧ assigned_to_user_id = .value user_id)

structure ReleaseGateCreate where
  name : String
  due_date : DateTime
  gate_type_id : Option ℕ
  test_phase_id : Option ℕ
  name_length : name.length ≤ 150

structure ReleaseGateUpdate where
  name : Sent String
  due_date : Sent DateTime
  gate_type_id : Sent ℕ
  test_phase_id : Sent ℕ
  name_length : ∀ n, name = .value n → n.length ≤ 150

structure ReleaseGateDecision where
  notes : Option String
  expires_at : Option DateTime
  remediation : Option String
  approved_by_user_id : Option ℕ

/-! ## Gates -/

/-- `_get_gate`, and `_get_gate_scoped` of the other service. -/
def _get_gate (db : Db) (gate_id tenant_id : ℕ) : Except Raised ReleaseGate :=
  get_or_raise
    (db.gates.select_one fun g =>
      g.id = gate_id ∧ g.tenant_id = tenant_id ∧ g.deleted_at = none)
    (http 404 "Release gate not found")

def _find_event_type (db : Db) (tenant_id : ℕ) (name : String) :
    Except Raised (Option ReleaseEventType) :=
  match db.reference.release_event_types.filter fun t =>
    t.tenant_id = tenant_id ∧ t.name = name ∧ t.deleted_at = none with
  | [] => .ok none
  | [t] => .ok (some t)
  | _ => .error .MultipleResultsFound

def _record_gate_event (db : Db) (gate : ReleaseGate) (tenant_id user_id : ℕ)
    (description : String) (now : DateTime) : Except Raised Db := do
  let event_type ← _find_event_type db tenant_id "Stakeholder Note"
  match event_type with
  | none => .ok db
  | some event_type =>
    .ok { db with
      events := db.events.insert
        { row id :=
            { id := id
              tenant_id := tenant_id
              release_id := gate.release_id
              event_type_id := event_type.id
              description := description
              occurred_at := now
              recorded_by := user_id }
          key_row _ := rfl } }

/-- `_validate_gate_type_id` and `_validate_test_phase_id`: what is sent again unchanged
need not be there any more. -/
def _validate_archivable_id (rows : List Archivable) (not_found : String) (tenant_id : ℕ)
    (id current_id : Option ℕ) : Except Raised Unit :=
  match id with
  | none => .ok ()
  | some id =>
    raise_if
      (some id ≠ current_id ∧
        ¬ ∃ row ∈ rows, row.id = id ∧ row.tenant_id = tenant_id ∧ row.deleted_at = none)
      (http 404 not_found)

def _validate_gate_type_id (db : Db) (tenant_id : ℕ) (gate_type_id current_gate_type_id : Option ℕ) :
    Except Raised Unit :=
  _validate_archivable_id db.reference.gate_types "Gate type not found" tenant_id gate_type_id
    current_gate_type_id

def _validate_test_phase_id (db : Db) (tenant_id : ℕ)
    (test_phase_id current_test_phase_id : Option ℕ) : Except Raised Unit :=
  _validate_archivable_id db.reference.test_phases "Test phase not found" tenant_id test_phase_id
    current_test_phase_id

def _validate_approver_user_id (db : Db) (tenant_id approved_by_user_id : ℕ) :
    Except Raised Unit :=
  raise_if
    (¬ ∃ u ∈ db.reference.users, u.id = approved_by_user_id ∧ u.tenant_id = tenant_id)
    (http 404 "Approver not found")

def ReleaseGateCreate.row (data : ReleaseGateCreate) (tenant_id release_id id : ℕ) :
    ReleaseGate where
  id := id
  tenant_id := tenant_id
  release_id := release_id
  name := data.name
  due_date := data.due_date
  status := "pending"
  decided_by := none
  decided_at := none
  decision_notes := none
  gate_type_id := data.gate_type_id
  test_phase_id := data.test_phase_id
  deleted_at := none

def create_gate (db : Db) (release_id : ℕ) (data : ReleaseGateCreate) (tenant_id : ℕ) :
    Except Raised Db := do
  _validate_gate_type_id db tenant_id data.gate_type_id none
  _validate_test_phase_id db tenant_id data.test_phase_id none
  .ok { db with gates := db.gates.insert ⟨data.row tenant_id release_id, fun _ => rfl⟩ }

def ReleaseGateUpdate.set (data : ReleaseGateUpdate) (gate : ReleaseGate) : ReleaseGate :=
  { gate with
    name := data.name.set_required gate.name
    due_date := data.due_date.set_required gate.due_date
    gate_type_id := data.gate_type_id.set_nullable gate.gate_type_id
    test_phase_id := data.test_phase_id.set_nullable gate.test_phase_id }

def update_gate (db : Db) (gate_id : ℕ) (data : ReleaseGateUpdate) (tenant_id : ℕ) :
    Except Raised Db := do
  let gate ← _get_gate db gate_id tenant_id
  _validate_gate_type_id db tenant_id (data.gate_type_id.set_nullable none) gate.gate_type_id
  _validate_test_phase_id db tenant_id (data.test_phase_id.set_nullable none) gate.test_phase_id
  raise_if (data.name = .null ∨ data.due_date = .null) .IntegrityError
  .ok { db with
    gates := db.gates.update (fun g => g.id = gate.id) ⟨data.set, fun _ => rfl⟩ }

def delete_gate (db : Db) (gate_id tenant_id : ℕ) (now : DateTime) : Except Raised Db := do
  let gate ← _get_gate db gate_id tenant_id
  .ok { db with
    gates := db.gates.update (fun g => g.id = gate.id)
      ⟨fun g => { g with deleted_at := some now }, fun _ => rfl⟩ }

/-- What the four ways to decide a gate have in common. -/
def decide_gate (db : Db) (gate : ReleaseGate) (status : String) (notes : Option String)
    (user_id : ℕ) (now : DateTime) : Db :=
  { db with
    gates := db.gates.update (fun g => g.id = gate.id)
      ⟨fun g =>
        { g with
          status := status
          decided_by := some user_id
          decided_at := some now
          decision_notes := notes }, fun _ => rfl⟩ }

/-- `f" Notes: {notes}" if notes else ""`. -/
def notes_suffix : Option String → String
  | none | some "" => ""
  | some notes => " Notes: " ++ notes

def pass_gate (db : Db) (gate_id : ℕ) (notes : Option String) (tenant_id user_id : ℕ)
    (now : DateTime) : Except Raised Db := do
  let gate ← _get_gate db gate_id tenant_id
  _record_gate_event (decide_gate db gate "passed" notes user_id now) gate tenant_id user_id
    (s!"Gate '{gate.name}' passed." ++ notes_suffix notes) now

def fail_gate (db : Db) (gate_id : ℕ) (notes : Option String) (tenant_id user_id : ℕ)
    (now : DateTime) : Except Raised Db := do
  let gate ← _get_gate db gate_id tenant_id
  _record_gate_event (decide_gate db gate "failed" notes user_id now) gate tenant_id user_id
    (s!"Gate '{gate.name}' failed." ++ notes_suffix notes) now

def override_gate (db : Db) (gate_id : ℕ) (data : ReleaseGateDecision) (tenant_id user_id : ℕ)
    (now : DateTime) : Except Raised Db := do
  let notes := data.notes.getD ""
  raise_if (strip notes = "") (http 422 "notes are required when overriding a gate")
  let gate ← _get_gate db gate_id tenant_id
  for_each data.approved_by_user_id.toList (_validate_approver_user_id db tenant_id)
  let db := decide_gate db gate "overridden" (some notes) user_id now
  _record_gate_event
    { db with
      waivers := db.waivers.insert
        { row id :=
            { id := id
              tenant_id := tenant_id
              gate_id := gate.id
              reason := notes
              approved_by_user_id := data.approved_by_user_id.getD user_id
              expires_at := data.expires_at
              remediation := data.remediation
              created_by := user_id }
          key_row _ := rfl } }
    gate tenant_id user_id s!"Gate '{gate.name}' overridden. Notes: {notes}" now

/-- The status column of the live criteria of a gate. -/
def criterion_statuses (db : Db) (gate_id tenant_id : ℕ) : List String :=
  (db.criteria.select fun c =>
    c.gate_id = gate_id ∧ c.tenant_id = tenant_id ∧ c.deleted_at = none).map GateCriterion.status

/-- Whether the gate was passed, and what that leaves. -/
def maybe_auto_pass_gate (db : Db) (gate : ReleaseGate) (tenant_id user_id : ℕ)
    (now : DateTime) : Except Raised (Bool × Db) := do
  let rows := criterion_statuses db gate.id tenant_id
  if gate.status ≠ "pending" then .ok (false, db)
  else if rows = [] then .ok (false, db)
  else if ∃ s ∈ rows, s ≠ "done" then .ok (false, db)
  else do
    let db ← _record_gate_event
      (decide_gate db gate "passed" (some "auto: all criteria met") user_id now) gate tenant_id
      user_id s!"Gate '{gate.name}' passed automatically (all criteria met)." now
    .ok (true, db)

/-! ## Criteria -/

def get_criterion (db : Db) (criterion_id tenant_id : ℕ) : Except Raised GateCriterion :=
  get_or_raise
    (db.criteria.select_one fun c =>
      c.id = criterion_id ∧ c.tenant_id = tenant_id ∧ c.deleted_at = none)
    (http 404 "Gate criterion not found")

/-- The foreign key to the assigned user. -/
def _assignee_exists (db : Db) (user_id : Option ℕ) : Except Raised Unit :=
  raise_if (∃ id ∈ user_id, ¬ ∃ u ∈ db.reference.users, u.id = id) .IntegrityError

def GateCriterionCreate.row (data : GateCriterionCreate) (tenant_id gate_id id : ℕ) :
    GateCriterion where
  id := id
  tenant_id := tenant_id
  gate_id := gate_id
  title := data.title
  notes := data.notes
  assigned_to_user_id := data.assigned_to_user_id
  assigned_role := data.assigned_role
  status := "open"
  completed_at := none
  completed_by_user_id := none
  deleted_at := none

def create_criterion (db : Db) (gate_id tenant_id : ℕ) (data : GateCriterionCreate) :
    Except Raised Db := do
  let gate ← _get_gate db gate_id tenant_id
  _assignee_exists db data.assigned_to_user_id
  .ok { db with criteria := db.criteria.insert ⟨data.row tenant_id gate.id, fun _ => rfl⟩ }

def GateCriterionUpdate.set (data : GateCriterionUpdate) (criterion : GateCriterion) :
    GateCriterion :=
  { criterion with
    title := data.title.set_required criterion.title
    notes := data.notes.set_nullable criterion.notes
    assigned_to_user_id := data.assigned_to_user_id.set_nullable criterion.assigned_to_user_id
    assigned_role := data.assigned_role.set_nullable criterion.assigned_role }

def update_criterion (db : Db) (criterion_id tenant_id : ℕ) (data : GateCriterionUpdate) :
    Except Raised Db := do
  let crit ← get_criterion db criterion_id tenant_id
  raise_if (data.title = .null) .IntegrityError
  _assignee_exists db (data.assigned_to_user_id.set_nullable none)
  .ok { db with
    criteria := db.criteria.update (fun c => c.id = crit.id) ⟨data.set, fun _ => rfl⟩ }

def delete_criterion (db : Db) (criterion_id tenant_id : ℕ) (now : DateTime) :
    Except Raised Db := do
  let crit ← get_criterion db criterion_id tenant_id
  .ok { db with
    criteria := db.criteria.update (fun c => c.id = crit.id)
      ⟨fun c => { c with deleted_at := some now }, fun _ => rfl⟩ }

/-- Only the assigned role, or an administrator, completes or reopens a criterion. -/
def _require_assigned_role (crit : GateCriterion) (user_role verb : String) : Except Raised Unit :=
  match crit.assigned_role with
  | none => .ok ()
  | some role =>
    raise_if (user_role ≠ role ∧ user_role ≠ Role.ADMIN)
      (http 403 s!"Only a {role} or Admin can {verb} this criterion")

def complete_criterion (db : Db) (criterion_id tenant_id user_id : ℕ) (user_role : String)
    (now : DateTime) : Except Raised Db := do
  let crit ← get_criterion db criterion_id tenant_id
  _require_assigned_role crit user_role "complete"
  if crit.status = "done" then .ok db
  else do
    let db := { db with
      criteria := db.criteria.update (fun c => c.id = crit.id)
        ⟨fun c =>
          { c with
            status := "done"
            completed_at := some now
            completed_by_user_id := some user_id }, fun _ => rfl⟩ }
    let gate ← _get_gate db crit.gate_id tenant_id
    let (_, db) ← maybe_auto_pass_gate db gate tenant_id user_id now
    .ok db

def reopen_criterion (db : Db) (criterion_id tenant_id : ℕ) (user_role : String) :
    Except Raised Db := do
  let crit ← get_criterion db criterion_id tenant_id
  _require_assigned_role crit user_role "reopen"
  if crit.status = "open" then .ok db
  else
    .ok { db with
      criteria := db.criteria.update (fun c => c.id = crit.id)
        ⟨fun c =>
          { c with status := "open", completed_at := none, completed_by_user_id := none },
          fun _ => rfl⟩ }

/-! ## The routes -/

inductive Request
  | create_gate (release_id : ℕ) (data : ReleaseGateCreate)
  | update_gate (gate_id : ℕ) (data : ReleaseGateUpdate)
  | delete_gate (gate_id : ℕ)
  | pass_gate (gate_id : ℕ) (notes : Option String)
  | fail_gate (gate_id : ℕ) (notes : Option String)
  | override_gate (gate_id : ℕ) (data : ReleaseGateDecision)
  | create_criterion (release_id gate_id : ℕ) (data : GateCriterionCreate)
  | update_criterion (criterion_id : ℕ) (data : GateCriterionUpdate)
  | complete_criterion (criterion_id : ℕ)
  | reopen_criterion (criterion_id : ℕ)
  | delete_criterion (criterion_id : ℕ)

structure Call where
  current_user : CurrentUser
  request : Request
  now : DateTime

def handle (db : Db) (call : Call) : Except Raised Db :=
  let user := call.current_user
  let tenant_id := user.active_tenant_id
  match call.request with
  | .create_gate release_id data => do
    let _ ← get_release db.reference.releases release_id tenant_id
    create_gate db release_id data tenant_id
  | .update_gate gate_id data => update_gate db gate_id data tenant_id
  | .delete_gate gate_id => delete_gate db gate_id tenant_id call.now
  | .pass_gate gate_id notes => pass_gate db gate_id notes tenant_id user.id call.now
  | .fail_gate gate_id notes => fail_gate db gate_id notes tenant_id user.id call.now
  | .override_gate gate_id data => override_gate db gate_id data tenant_id user.id call.now
  | .create_criterion release_id gate_id data => do
    let _ ← get_release db.reference.releases release_id tenant_id
    create_criterion db gate_id tenant_id data
  | .update_criterion criterion_id data => update_criterion db criterion_id tenant_id data
  | .complete_criterion criterion_id =>
    complete_criterion db criterion_id tenant_id user.id user.role call.now
  | .reopen_criterion criterion_id => reopen_criterion db criterion_id tenant_id user.role
  | .delete_criterion criterion_id => delete_criterion db criterion_id tenant_id call.now

def step (db : Db) (call : Call) : Db := commit_or_rollback db (handle db call)

end EnvMgr.Gates
