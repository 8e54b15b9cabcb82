/-
Post-implementation reviews: `services/pir_service.py` and `services/pir_finding_service.py`,
with the routes over them in `api/v1/pir.py` and the citing route in `api/v1/incidents.py`.

A review is one row per release. What it found are findings of two kinds, numbered by review and
kind; what is done about a finding are its actions, numbered by finding. All three are deleted by
a stamp, and a deletion reaches no further than its own row.
-/
import EnvMgr.Core.Directory
import EnvMgr.Lib.Table

namespace EnvMgr.Reviews

/-! ## Tables -/

inductive PirStatus
  | draft
  | complete
  deriving DecidableEq

structure PIR where
  id : ℕ
  tenant_id : ℕ
  release_id : ℕ
  summary : Option String
  status : PirStatus
  completed_at : Option DateTime
  created_by : ℕ
  deleted_at : Option DateTime
  deriving DecidableEq

/-- `FINDING_KINDS`. -/
inductive FindingKind
  | went_well
  | went_wrong
  deriving DecidableEq

def FindingKind.value : FindingKind → String
  | went_well => "went_well"
  | went_wrong => "went_wrong"

structure PirFinding where
  id : ℕ
  tenant_id : ℕ
  pir_id : ℕ
  kind : FindingKind
  seq : ℕ
  title : String
  detail : Option String
  root_cause : Option String
  created_by : ℕ
  deleted_at : Option DateTime
  deriving DecidableEq

/-- `ACTION_STATUSES`. -/
inductive ActionStatus
  | open
  | in_progress
  | done
  | cancelled
  deriving DecidableEq

def CLOSED_ACTION_STATUSES : List ActionStatus := [.done, .cancelled]

def LIVE_ACTION_STATUSES : List ActionStatus := [.open, .in_progress]

structure PirAction where
  id : ℕ
  tenant_id : ℕ
  finding_id : ℕ
  seq : ℕ
  title : String
  detail : Option String
  owner_id : Option ℕ
  due_date : Option DateTime
  status : ActionStatus
  closed_at : Option DateTime
  closure_note : Option String
  created_by : ℕ
  deleted_at : Option DateTime
  deriving DecidableEq

/-- An incident offered as evidence for a finding. -/
structure PirFindingIncident where
  id : ℕ
  tenant_id : ℕ
  finding_id : ℕ
  incident_id : ℕ
  note : Option String
  deriving DecidableEq

structure User where
  id : ℕ
  tenant_id : ℕ
  deleted_at : Option DateTime
  deriving DecidableEq

structure Incident where
  id : ℕ
  tenant_id : ℕ
  deleted_at : Option DateTime
  deriving DecidableEq

/-- The rows of other services that this one looks up. -/
structure Reference where
  releases : Table Release Release.id
  users : Table User User.id
  incidents : Table Incident Incident.id

structure Db where
  reference : Reference
  pirs : Table PIR PIR.id
  findings : Table PirFinding PirFinding.id
  actions : Table PirAction PirAction.id
  citations : Table PirFindingIncident PirFindingIncident.id

/-- Nothing has been reviewed. -/
def Db.opened (reference : Reference) : Db :=
  ⟨reference, Table.empty, Table.empty, Table.empty, Table.empty⟩

/-! ## Requests -/

/-- `Field(min_length=1, max_length=500)`. -/
abbrev Title := { s : String // 1 ≤ s.length ∧ s.length ≤ 500 }

structure PIRCreate where
  summary : Option String
  status : Option PirStatus
  deriving DecidableEq

/-- `PIRCreate()`. -/
def PIRCreate.default : PIRCreate := ⟨none, some .draft⟩

structure PIRUpdate where
  summary : Sent String
  status : Sent PirStatus
  deriving DecidableEq

structure PirFindingCreate where
  kind : FindingKind
  title : Title
  detail : Option String
  root_cause : Option String
  deriving DecidableEq

/-- `kind` is any text here, so that an attempt to change it is answered by the service. -/
structure PirFindingUpdate where
  kind : Sent String
  title : Sent Title
  detail : Sent String
  root_cause : Sent String
  deriving DecidableEq

structure PirActionCreate where
  title : Title
  detail : Option String
  owner_id : Option ℕ
  due_date : Option DateTime
  status : ActionStatus
  closure_note : Option String
  deriving DecidableEq

structure PirActionUpdate where
  title : Sent Title
  detail : Sent String
  owner_id : Sent ℕ
  due_date : Sent DateTime
  status : Sent ActionStatus
  closure_note : Sent String
  deriving DecidableEq

/-! ## Reviews -/

/-- `pir_service.get_for_release`. -/
def get_for_release (db : Db) (tenant_id release_id : ℕ) : Option PIR :=
  db.pirs.select_one fun p =>
    p.release_id = release_id ∧ p.tenant_id = tenant_id ∧ p.deleted_at = none

def get_pir_or_404 (db : Db) (tenant_id release_id : ℕ) : Except Raised PIR :=
  get_or_raise (get_for_release db tenant_id release_id) (http 404 "PIR not found")

def PIRCreate.row (data : PIRCreate) (tenant_id release_id user_id : ℕ) (now : DateTime)
    (id : ℕ) : PIR where
  id := id
  tenant_id := tenant_id
  release_id := release_id
  summary := data.summary
  status := data.status.getD .draft
  completed_at := if data.status.getD .draft = .complete then some now else none
  created_by := user_id
  deleted_at := none

/-- The table with the new review, and the review. -/
def create_for_release (db : Db) (tenant_id release_id : ℕ) (data : PIRCreate) (user_id : ℕ)
    (now : DateTime) : Except Raised (Db × PIR) := do
  let _ ← get_release db.reference.releases.rows release_id tenant_id
  raise_if (get_for_release db tenant_id release_id ≠ none)
    (http 409 "A PIR already exists for this release")
  .ok ({ db with
      pirs := db.pirs.insert ⟨data.row tenant_id release_id user_id now, fun _ => rfl⟩ },
    data.row tenant_id release_id user_id now db.pirs.next)

/-- What `pir_service.update` makes of the row. -/
def PIRUpdate.assign (data : PIRUpdate) (now : DateTime) (pir : PIR) : PIR :=
  let status := data.status.set_required pir.status
  { pir with
    summary := data.summary.set_nullable pir.summary
    status := status
    completed_at :=
      if status = .complete then some (pir.completed_at.getD now) else none }

def update_pir (db : Db) (tenant_id release_id : ℕ) (data : PIRUpdate) (now : DateTime) :
    Except Raised Db := do
  let pir ← get_pir_or_404 db tenant_id release_id
  raise_if (data.status = .null) .IntegrityError
  .ok { db with
    pirs := db.pirs.update (fun p => p.id = pir.id) ⟨data.assign now, fun _ => rfl⟩ }

def delete_pir (db : Db) (tenant_id release_id : ℕ) (now : DateTime) : Except Raised Db := do
  let pir ← get_pir_or_404 db tenant_id release_id
  .ok { db with
    pirs := db.pirs.update (fun p => p.id = pir.id)
      ⟨fun p => { p with deleted_at := some now }, fun _ => rfl⟩ }

/-! ## Findings -/

def get_finding (db : Db) (tenant_id finding_id : ℕ) : Except Raised PirFinding :=
  get_or_raise
    (db.findings.select_one fun f =>
      f.id = finding_id ∧ f.tenant_id = tenant_id ∧ f.deleted_at = none)
    (http 404 "Finding not found")

def get_finding_in_pir (db : Db) (tenant_id : ℕ) (pir : PIR) (finding_id : ℕ) :
    Except Raised PirFinding := do
  let finding ← get_finding db tenant_id finding_id
  raise_if (finding.pir_id ≠ pir.id)
    (http 422 "finding_id does not belong to that release's PIR")
  .ok finding

/-- `(current or 0) + 1`, with `func.max(PirFinding.seq)` over the live rows. -/
def _next_seq (db : Db) (pir_id : ℕ) (kind : FindingKind) : ℕ :=
  ((db.findings.select fun f =>
    f.pir_id = pir_id ∧ f.kind = kind ∧ f.deleted_at = none).map PirFinding.seq).foldl max 0 + 1

def PirFindingCreate.row (data : PirFindingCreate) (tenant_id : ℕ) (pir : PIR)
    (seq user_id id : ℕ) : PirFinding where
  id := id
  tenant_id := tenant_id
  pir_id := pir.id
  kind := data.kind
  seq := seq
  title := data.title
  detail := data.detail
  root_cause := data.root_cause
  created_by := user_id
  deleted_at := none

/-- The table with the new finding, and the finding. -/
def create_finding (db : Db) (tenant_id : ℕ) (pir : PIR) (data : PirFindingCreate)
    (user_id : ℕ) : Db × PirFinding :=
  let seq := _next_seq db pir.id data.kind
  ({ db with
      findings := db.findings.insert ⟨data.row tenant_id pir seq user_id, fun _ => rfl⟩ },
    data.row tenant_id pir seq user_id db.findings.next)

/-- `payload["kind"] != finding.kind`, with a null unequal to each kind. -/
def PirFindingUpdate.changes_kind (data : PirFindingUpdate) (finding : PirFinding) : Prop :=
  data.kind.mentioned = true ∧ data.kind ≠ .value finding.kind.value
  deriving Decidable

/-- What the loop over the payload sets. -/
def PirFindingUpdate.assign (data : PirFindingUpdate) (finding : PirFinding) : PirFinding :=
  { finding with
    title := match data.title with
      | .value title => title
      | _ => finding.title
    detail := data.detail.set_nullable finding.detail
    root_cause := data.root_cause.set_nullable finding.root_cause }

def update_finding (db : Db) (tenant_id finding_id : ℕ) (data : PirFindingUpdate) :
    Except Raised Db := do
  let finding ← get_finding db tenant_id finding_id
  raise_if (data.changes_kind finding)
    (http 422
      "kind cannot be changed; delete the finding and raise it under the other kind")
  raise_if (data.title = .null) (http 422 "title cannot be null")
  .ok { db with
    findings := db.findings.update (fun f => f.id = finding.id) ⟨data.assign, fun _ => rfl⟩ }

def delete_finding (db : Db) (tenant_id finding_id : ℕ) (now : DateTime) :
    Except Raised Db := do
  let finding ← get_finding db tenant_id finding_id
  .ok { db with
    findings := db.findings.update (fun f => f.id = finding.id)
      ⟨fun f => { f with deleted_at := some now }, fun _ => rfl⟩ }

/-! ## Actions -/

def get_action (db : Db) (tenant_id action_id : ℕ) : Except Raised PirAction :=
  get_or_raise
    (db.actions.select_one fun a =>
      a.id = action_id ∧ a.tenant_id = tenant_id ∧ a.deleted_at = none)
    (http 404 "Action not found")

def get_action_in_finding (db : Db) (tenant_id : ℕ) (finding : PirFinding) (action_id : ℕ) :
    Except Raised PirAction := do
  let action ← get_action db tenant_id action_id
  raise_if (action.finding_id ≠ finding.id)
    (http 422 "action_id does not belong to that finding")
  .ok action

def _next_action_seq (db : Db) (finding_id : ℕ) : ℕ :=
  ((db.actions.select fun a =>
    a.finding_id = finding_id ∧ a.deleted_at = none).map PirAction.seq).foldl max 0 + 1

/-- A deactivated owner passes, a deleted one does not. -/
def _validate_owner (db : Db) (tenant_id : ℕ) (owner_id : Option ℕ) : Except Raised Unit :=
  match owner_id with
  | none => .ok ()
  | some owner_id =>
    raise_if
      (¬ ∃ u ∈ db.reference.users.rows,
        u.id = owner_id ∧ u.tenant_id = tenant_id ∧ u.deleted_at = none)
      (http 422 "owner_id does not reference a user in this tenant")

def PirActionCreate.row (data : PirActionCreate) (tenant_id : ℕ) (finding : PirFinding)
    (seq user_id : ℕ) (now : DateTime) (id : ℕ) : PirAction where
  id := id
  tenant_id := tenant_id
  finding_id := finding.id
  seq := seq
  title := data.title
  detail := data.detail
  owner_id := data.owner_id
  due_date := data.due_date
  status := data.status
  closed_at := if data.status ∈ CLOSED_ACTION_STATUSES then some now else none
  closure_note := data.closure_note
  created_by := user_id
  deleted_at := none

def create_action (db : Db) (tenant_id : ℕ) (finding : PirFinding) (data : PirActionCreate)
    (user_id : ℕ) (now : DateTime) : Except Raised Db := do
  _validate_owner db tenant_id data.owner_id
  .ok { db with
    actions := db.actions.insert
      ⟨data.row tenant_id finding (_next_action_seq db finding.id) user_id now, fun _ => rfl⟩ }

/-- What the loop over the payload sets, and the stamp. -/
def PirActionUpdate.assign (data : PirActionUpdate) (now : DateTime) (action : PirAction) :
    PirAction :=
  let status := data.status.set_required action.status
  { action with
    title := match data.title with
      | .value title => title
      | _ => action.title
    detail := data.detail.set_nullable action.detail
    owner_id := data.owner_id.set_nullable action.owner_id
    due_date := data.due_date.set_nullable action.due_date
    status := status
    closure_note := data.closure_note.set_nullable action.closure_note
    closed_at :=
      if status ∈ CLOSED_ACTION_STATUSES then some (action.closed_at.getD now) else none }

def update_action (db : Db) (tenant_id action_id : ℕ) (data : PirActionUpdate)
    (now : DateTime) : Except Raised Db := do
  let action ← get_action db tenant_id action_id
  raise_if (data.title = .null) (http 422 "title cannot be null")
  -- the owner the row already has is never asked about again
  (if data.owner_id.set_nullable action.owner_id ≠ action.owner_id then
    _validate_owner db tenant_id (data.owner_id.set_nullable action.owner_id)
  else .ok ())
  raise_if (data.status = .null) .IntegrityError
  .ok { db with
    actions := db.actions.update (fun a => a.id = action.id) ⟨data.assign now, fun _ => rfl⟩ }

def delete_action (db : Db) (tenant_id action_id : ℕ) (now : DateTime) : Except Raised Db := do
  let action ← get_action db tenant_id action_id
  .ok { db with
    actions := db.actions.update (fun a => a.id = action.id)
      ⟨fun a => { a with deleted_at := some now }, fun _ => rfl⟩ }

/-! ## Citations -/

def WRONG_KIND : String :=
  "an incident is evidence of something going wrong; cite it against a went_wrong finding"

def get_incident (db : Db) (incident_id tenant_id : ℕ) : Option Incident :=
  db.reference.incidents.select_one fun i =>
    i.id = incident_id ∧ i.tenant_id = tenant_id ∧ i.deleted_at = none

/-- Citing twice updates the note. -/
def add_citation (db : Db) (tenant_id : ℕ) (finding : PirFinding) (incident_id : ℕ)
    (note : Option String) : Except Raised Db := do
  raise_if (finding.kind ≠ .went_wrong) (http 422 WRONG_KIND)
  let _ ← get_or_raise (get_incident db incident_id tenant_id)
    (http 422 "incident_id does not reference a valid incident for this tenant")
  match db.citations.select_one fun c => c.finding_id = finding.id ∧ c.incident_id = incident_id with
  | some existing =>
    .ok { db with
      citations := db.citations.update (fun c => c.id = existing.id)
        ⟨fun c => { c with note := note }, fun _ => rfl⟩ }
  | none =>
    .ok { db with
      citations := db.citations.insert
        ⟨fun id => ⟨id, tenant_id, finding.id, incident_id, note⟩, fun _ => rfl⟩ }

def remove_citation (db : Db) (tenant_id finding_id incident_id : ℕ) : Except Raised Db := do
  let citation ← get_or_raise
    (db.citations.select_one fun c =>
      c.finding_id = finding_id ∧ c.incident_id = incident_id ∧ c.tenant_id = tenant_id)
    (http 404 "Citation not found")
  .ok { db with citations := db.citations.delete fun c => c.id = citation.id }

/-! ## The routes -/

structure IncidentPirNewFinding where
  title : Title
  detail : Option String
  root_cause : Option String
  actions : List PirActionCreate
  deriving DecidableEq

/-- `_exactly_one` of a finding that is there and a new one. -/
inductive CitedFinding
  | finding_id (id : ℕ)
  | new_finding (data : IncidentPirNewFinding)
  deriving DecidableEq

inductive Request
  | create_pir (release_id : ℕ) (data : PIRCreate)
  | update_pir (release_id : ℕ) (data : PIRUpdate)
  | delete_pir (release_id : ℕ)
  | create_finding (release_id : ℕ) (data : PirFindingCreate)
  | update_finding (release_id finding_id : ℕ) (data : PirFindingUpdate)
  | delete_finding (release_id finding_id : ℕ)
  | create_action (release_id finding_id : ℕ) (data : PirActionCreate)
  | update_action (release_id finding_id action_id : ℕ) (data : PirActionUpdate)
  | delete_action (release_id finding_id action_id : ℕ)
  | cite_incident (release_id finding_id incident_id : ℕ) (note : Option String)
  | uncite_incident (release_id finding_id incident_id : ℕ)
  /-- `POST /incidents/{incident_id}/pir-citation`, which makes what is missing. -/
  | cite_on_pir (incident_id release_id : ℕ) (finding : CitedFinding) (note : Option String)

/-- A request, who makes it and when. -/
structure Call where
  current_user : CurrentUser
  request : Request
  now : DateTime

/-- The finding a path names by its release and its id. -/
def finding_of_route (db : Db) (tenant_id release_id finding_id : ℕ) :
    Except Raised PirFinding := do
  let pir ← get_pir_or_404 db tenant_id release_id
  get_finding_in_pir db tenant_id pir finding_id

/-- `for action in data.new_finding.actions`. -/
def create_actions (db : Db) (tenant_id : ℕ) (finding : PirFinding)
    (actions : List PirActionCreate) (user_id : ℕ) (now : DateTime) : Except Raised Db :=
  actions.foldlM (fun db action => create_action db tenant_id finding action user_id now) db

/-- The review that the new finding goes to, made where the release has none. -/
def pir_for_citation (db : Db) (tenant_id release_id user_id : ℕ) (now : DateTime) :
    Except Raised (Db × PIR) :=
  match get_for_release db tenant_id release_id with
  | some pir => .ok (db, pir)
  | none => create_for_release db tenant_id release_id PIRCreate.default user_id now

def cite_on_pir (db : Db) (tenant_id incident_id release_id : ℕ) (cited : CitedFinding)
    (note : Option String) (user_id : ℕ) (now : DateTime) : Except Raised Db := do
  let _ ← get_or_raise (get_incident db incident_id tenant_id) (http 404 "Incident not found")
  match cited with
  | .finding_id finding_id =>
    let pir ← get_or_raise (get_for_release db tenant_id release_id)
      (http 422 "finding_id does not belong to that release's PIR")
    let finding ← get_finding_in_pir db tenant_id pir finding_id
    raise_if (finding.kind ≠ .went_wrong) (http 422 WRONG_KIND)
    add_citation db tenant_id finding incident_id note
  | .new_finding data =>
    let (db, pir) ← pir_for_citation db tenant_id release_id user_id now
    let (db, finding) := create_finding db tenant_id pir
      ⟨.went_wrong, data.title, data.detail, data.root_cause⟩ user_id
    let db ← create_actions db tenant_id finding data.actions user_id now
    add_citation db tenant_id finding incident_id note

def handle (db : Db) (call : Call) : Except Raised Db :=
  let tenant_id := call.current_user.active_tenant_id
  let user_id := call.current_user.id
  match call.request with
  | .create_pir release_id data =>
    (create_for_release db tenant_id release_id data user_id call.now).map Prod.fst
  | .update_pir release_id data => update_pir db tenant_id release_id data call.now
  | .delete_pir release_id => delete_pir db tenant_id release_id call.now
  | .create_finding release_id data => do
    let pir ← get_pir_or_404 db tenant_id release_id
    .ok (create_finding db tenant_id pir data user_id).1
  | .update_finding release_id finding_id data => do
    let _ ← finding_of_route db tenant_id release_id finding_id
    update_finding db tenant_id finding_id data
  | .delete_finding release_id finding_id => do
    let _ ← finding_of_route db tenant_id release_id finding_id
    delete_finding db tenant_id finding_id call.now
  | .create_action release_id finding_id data => do
    let finding ← finding_of_route db tenant_id release_id finding_id
    create_action db tenant_id finding data user_id call.now
  | .update_action release_id finding_id action_id data => do
    let finding ← finding_of_route db tenant_id release_id finding_id
    let _ ← get_action_in_finding db tenant_id finding action_id
    update_action db tenant_id action_id data call.now
  | .delete_action release_id finding_id action_id => do
    let finding ← finding_of_route db tenant_id release_id finding_id
    let _ ← get_action_in_finding db tenant_id finding action_id
    delete_action db tenant_id action_id call.now
  | .cite_incident release_id finding_id incident_id note => do
    let finding ← finding_of_route db tenant_id release_id finding_id
    add_citation db tenant_id finding incident_id note
  | .uncite_incident release_id finding_id incident_id => do
    let _ ← finding_of_route db tenant_id release_id finding_id
    remove_citation db tenant_id finding_id incident_id
  | .cite_on_pir incident_id release_id cited note =>
    cite_on_pir db tenant_id incident_id release_id cited note user_id call.now

def step (db : Db) (call : Call) : Db := commit_or_rollback db (handle db call)

end EnvMgr.Reviews
