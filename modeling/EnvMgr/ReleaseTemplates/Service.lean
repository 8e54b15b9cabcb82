/-
Release templates: `services/release_template_service.py`.

A template lists phases and gates, and a release created from it gets test phases that end on
its target date, hyper-care phases that start there, and gates that are due when the phase they
name ends. The dates follow the order of the list, and the gates find their phases by name. The
schema asks neither that the `order` of a phase is its place in the list nor that a phase has at
least no days, nor does it compare the names.
-/
import EnvMgr.Gates.AutoPass
import EnvMgr.Lib.Index
import EnvMgr.Statuses.Service

namespace EnvMgr.ReleaseTemplates

open Bookings (Json)
open Gates (ReleaseGate GateCriterionCreate)
open Statuses (sorted_ids)

/-! ## Tables -/

inductive PhaseKind
  | test
  | hypercare
  deriving DecidableEq

/-- A phase of a template, as it was sent: of a key left out the schema knows the default. -/
structure ReleaseTemplatePhase where
  name : String
  order : Option ℤ
  default_duration_days : Option ℤ
  kind : Option PhaseKind
  name_length : name.length ≤ 100
  deriving DecidableEq

structure ReleaseTemplateGate where
  name : String
  phase_name : Option String
  acceptance_criteria : Option String
  gate_type_id : Option ℕ
  name_length : name.length ≤ 150
  deriving DecidableEq

/-- The two lists are JSON columns, where a null that is sent is kept. -/
structure ReleaseTemplate where
  id : ℕ
  tenant_id : ℕ
  name : String
  description : Option String
  release_type : String
  default_lifecycle_template_id : Option ℕ
  phases : Option (List ReleaseTemplatePhase)
  gates : Option (List ReleaseTemplateGate)
  version : ℕ
  deleted_at : Option DateTime
  deriving DecidableEq

structure TestPhase where
  id : ℕ
  tenant_id : ℕ
  release_id : ℕ
  name : String
  order : ℤ
  start_date : Option DateTime
  end_date : Option DateTime
  status : String
  kind : PhaseKind
  deleted_at : Option DateTime
  deriving DecidableEq

structure Db where
  statuses : Statuses.Db
  gates : Gates.Db
  templates : Table ReleaseTemplate ReleaseTemplate.id
  phases : Table TestPhase TestPhase.id

/-! ## Requests -/

structure ReleaseTemplateCreate where
  name : String
  description : Option String
  release_type : String
  default_lifecycle_template_id : Option ℕ
  phases : List ReleaseTemplatePhase
  gates : List ReleaseTemplateGate
  name_length : name.length ≤ 200
  release_type_length : release_type.length ≤ 50

structure ReleaseTemplateUpdate where
  name : Sent String
  description : Sent String
  release_type : Sent String
  default_lifecycle_template_id : Sent ℕ
  phases : Sent (List ReleaseTemplatePhase)
  gates : Sent (List ReleaseTemplateGate)
  name_length : ∀ n, name = .value n → n.length ≤ 200
  release_type_length : ∀ t, release_type = .value t → t.length ≤ 50

/-- `utcoffset` is the offset that the target date is written with: what a datetime can be is
said of its own clock. -/
structure ReleaseTemplateInstantiate where
  name : String
  target_date : DateTime
  utcoffset : TimeDelta
  description : Option String
  custom_fields : Option (Dict Json)
  name_length : name.length ≤ 250
  target_min : datetime.min ≤ target_date + utcoffset
  target_max : target_date + utcoffset ≤ datetime.max

/-! ## Templates -/

def _get_template (db : Db) (template_id tenant_id : ℕ) : Except Raised ReleaseTemplate :=
  get_or_raise
    (db.templates.select_one fun t =>
      t.id = template_id ∧ t.tenant_id = tenant_id ∧ t.deleted_at = none)
    (http 404 "Release template not found")

/-- A gate type that the template has had may be deleted, a new one may not. -/
def _validate_template_gate_types (db : Db) (tenant_id : ℕ) (gates : List ReleaseTemplateGate)
    (grandfathered_ids : List ℕ) : Except Raised Unit :=
  let ids := (gates.filterMap ReleaseTemplateGate.gate_type_id).eraseDups
  let new_ids := ids.filter fun id => id ∉ grandfathered_ids
  let found := (db.gates.reference.gate_types.filter fun t =>
    t.id ∈ new_ids ∧ t.tenant_id = tenant_id ∧ t.deleted_at = none).map Gates.Archivable.id
  let missing := new_ids.filter fun id => id ∉ found
  raise_if (missing ≠ []) (http 404 ("Gate type not found: " ++ sorted_ids missing))

def _validate_single_hypercare_phase (phases : List ReleaseTemplatePhase) : Except Raised Unit :=
  let names := (phases.filter fun p => p.kind.getD .test = .hypercare).map
    ReleaseTemplatePhase.name
  raise_if (1 < names.length)
    (http 422 ("A release template may hold at most one hyper-care phase (found: "
      ++ ", ".intercalate names ++ ")"))

/-- The foreign key to the lifecycle template. -/
def _lifecycle_exists (db : Db) (lifecycle_template_id : Option ℕ) : Except Raised Unit :=
  raise_if (∃ id ∈ lifecycle_template_id.toList, ¬ ∃ t ∈ db.statuses.templates.rows, t.id = id)
    .IntegrityError

/-- `p.model_dump()`, with the defaults written out. -/
def ReleaseTemplatePhase.model_dump (p : ReleaseTemplatePhase) : ReleaseTemplatePhase :=
  { p with
    order := some (p.order.getD 0)
    default_duration_days := some (p.default_duration_days.getD 5)
    kind := some (p.kind.getD .test) }

def ReleaseTemplateCreate.row (data : ReleaseTemplateCreate) (tenant_id id : ℕ) :
    ReleaseTemplate where
  id := id
  tenant_id := tenant_id
  name := data.name
  description := data.description
  release_type := data.release_type
  default_lifecycle_template_id := data.default_lifecycle_template_id
  phases := some (data.phases.map ReleaseTemplatePhase.model_dump)
  gates := some data.gates
  version := 1
  deleted_at := none

def create_template (db : Db) (data : ReleaseTemplateCreate) (tenant_id : ℕ) :
    Except Raised Db := do
  _validate_template_gate_types db tenant_id data.gates []
  _validate_single_hypercare_phase data.phases
  _lifecycle_exists db data.default_lifecycle_template_id
  .ok { db with templates := db.templates.insert ⟨data.row tenant_id, fun _ => rfl⟩ }

/-- The phases keep the keys that were not sent as keys that are not there. -/
def ReleaseTemplateUpdate.set (data : ReleaseTemplateUpdate) (tpl : ReleaseTemplate) :
    ReleaseTemplate :=
  { tpl with
    name := data.name.set_required tpl.name
    description := data.description.set_nullable tpl.description
    release_type := data.release_type.set_required tpl.release_type
    default_lifecycle_template_id :=
      data.default_lifecycle_template_id.set_nullable tpl.default_lifecycle_template_id
    phases := data.phases.set_nullable tpl.phases
    gates := data.gates.set_nullable tpl.gates
    version := (if tpl.version = 0 then 1 else tpl.version) + 1 }

def update_template (db : Db) (template_id : ℕ) (data : ReleaseTemplateUpdate)
    (tenant_id : ℕ) : Except Raised Db := do
  let tpl ← _get_template db template_id tenant_id
  let stored_ids := (tpl.gates.getD []).filterMap ReleaseTemplateGate.gate_type_id
  for_each (data.gates.set_nullable none).toList fun gates =>
    _validate_template_gate_types db tenant_id gates stored_ids
  for_each (data.phases.set_nullable none).toList _validate_single_hypercare_phase
  raise_if (data.name = .null ∨ data.release_type = .null) .IntegrityError
  _lifecycle_exists db (data.default_lifecycle_template_id.set_nullable none)
  .ok { db with
    templates := db.templates.update (fun t => t.id = tpl.id) ⟨data.set, fun _ => rfl⟩ }

def delete_template (db : Db) (template_id tenant_id : ℕ) (now : DateTime) :
    Except Raised Db := do
  let tpl ← _get_template db template_id tenant_id
  raise_if (∃ r ∈ db.statuses.releases.rows,
      r.template_id = some template_id ∧ r.tenant_id = tenant_id ∧ r.deleted_at = none)
    (http 409 "Cannot delete template: it is referenced by one or more active releases")
  .ok { db with
    templates := db.templates.update (fun t => t.id = tpl.id)
      ⟨fun t => { t with deleted_at := some now }, fun _ => rfl⟩ }

/-! ## A release from a template -/

/-- What `_cfg` reads of a phase. -/
structure PhaseConfig where
  name : String
  order : ℤ
  duration_days : ℤ
  kind : PhaseKind
  deriving DecidableEq

def _cfg (p : ReleaseTemplatePhase) : PhaseConfig where
  name := p.name
  order := p.order.getD 0
  duration_days := p.default_duration_days.getD 5
  kind := p.kind.getD .test

/-- `tpl.phases or []`. -/
def ReleaseTemplate.phases_config (tpl : ReleaseTemplate) : List PhaseConfig :=
  (tpl.phases.getD []).map _cfg

def ReleaseTemplate.test_cfgs (tpl : ReleaseTemplate) : List PhaseConfig :=
  tpl.phases_config.filter fun c => c.kind ≠ .hypercare

def ReleaseTemplate.hypercare_cfgs (tpl : ReleaseTemplate) : List PhaseConfig :=
  tpl.phases_config.filter fun c => c.kind = .hypercare

def PhaseConfig.duration (c : PhaseConfig) : TimeDelta := timedelta.days c.duration_days

def PhaseConfig.row (c : PhaseConfig) (window : Interval DateTime) (release_id tenant_id id : ℕ) :
    TestPhase where
  id := id
  tenant_id := tenant_id
  release_id := release_id
  name := c.name
  order := c.order
  start_date := some window.start
  end_date := some window.stop
  status := "pending"
  kind := c.kind
  deleted_at := none

/-- A datetime that an addition or a subtraction comes to. -/
def arithmetic (utcoffset : TimeDelta) (dt : DateTime) : Except Raised DateTime := do
  raise_if (¬ (datetime.min ≤ dt + utcoffset ∧ dt + utcoffset ≤ datetime.max)) .OverflowError
  .ok dt

/-- Where the loops over the phases are: the phases created so far, those to be found by their
names, and the cursor. -/
structure Placing where
  phases : Table TestPhase TestPhase.id
  phase_objects : Index String TestPhase
  cursor : DateTime

def add_phase (release_id tenant_id : ℕ) (c : PhaseConfig) (window : Interval DateTime)
    (cursor : DateTime) (s : Placing) : Placing where
  phases := s.phases.insert ⟨c.row window release_id tenant_id, fun _ => rfl⟩
  phase_objects := s.phase_objects.set c.name (c.row window release_id tenant_id s.phases.next)
  cursor := cursor

/-- A turn of the loop over the test phases, which goes backwards. -/
def add_test_phase (release_id tenant_id : ℕ) (utcoffset : TimeDelta) (s : Placing)
    (c : PhaseConfig) : Except Raised Placing := do
  let end_date := s.cursor
  let start_date ← arithmetic utcoffset (s.cursor - c.duration)
  .ok (add_phase release_id tenant_id c ⟨start_date, end_date⟩ start_date s)

def add_hypercare_phase (release_id tenant_id : ℕ) (utcoffset : TimeDelta) (s : Placing)
    (c : PhaseConfig) : Except Raised Placing := do
  let start_date := s.cursor
  let end_date ← arithmetic utcoffset (s.cursor + c.duration)
  .ok (add_phase release_id tenant_id c ⟨start_date, end_date⟩ end_date s)

def add_phases (phases : Table TestPhase TestPhase.id) (tpl : ReleaseTemplate)
    (data : ReleaseTemplateInstantiate) (release_id tenant_id : ℕ) : Except Raised Placing := do
  let s ← tpl.test_cfgs.reverse.foldlM (add_test_phase release_id tenant_id data.utcoffset)
    ⟨phases, Index.empty, data.target_date⟩
  tpl.hypercare_cfgs.foldlM (add_hypercare_phase release_id tenant_id data.utcoffset)
    { s with cursor := data.target_date }

/-- `phase_objects.get(phase_name) if phase_name else None`. -/
def matched_phase (phase_objects : Index String TestPhase) (phase_name : Option String) :
    Option TestPhase :=
  match phase_name with
  | none | some "" => none
  | some name => phase_objects.get name

/-- The end of the phase, or else the target date, which is always there. -/
def gate_due_date (matched : Option TestPhase) (target_date : DateTime) : DateTime :=
  (matched.bind TestPhase.end_date).getD target_date

def ReleaseTemplateGate.row (cfg : ReleaseTemplateGate) (matched : Option TestPhase)
    (target_date : DateTime) (release_id tenant_id id : ℕ) : ReleaseGate where
  id := id
  tenant_id := tenant_id
  release_id := release_id
  name := cfg.name
  due_date := gate_due_date matched target_date
  status := "pending"
  decided_by := none
  decided_at := none
  decision_notes := none
  gate_type_id := cfg.gate_type_id
  test_phase_id := matched.map TestPhase.id
  deleted_at := none

theorem no_role_is_valid (role : String) (h : role ∈ (none : Option String)) :
    role ∈ Gates._VALID_ROLES := nomatch h

theorem nobody_is_one : (none : Option String) = none ∨ (none : Option ℕ) = none := Or.inl rfl

def seed_criterion (seed_text : String) : GateCriterionCreate where
  title := "Acceptance criteria"
  notes := some seed_text
  assigned_to_user_id := none
  assigned_role := none
  title_length := by decide
  valid_role := no_role_is_valid
  one_assignee := nobody_is_one

def insert_gate (db : Gates.Db) (new : Table.New ReleaseGate.id) : Gates.Db :=
  { db with gates := db.gates.insert new }

/-- A turn of the loop over the gates. -/
def add_gate (phase_objects : Index String TestPhase) (target_date : DateTime)
    (release_id tenant_id : ℕ) (db : Gates.Db) (cfg : ReleaseTemplateGate) :
    Except Raised Gates.Db :=
  let matched := matched_phase phase_objects cfg.phase_name
  let added := insert_gate db ⟨cfg.row matched target_date release_id tenant_id, fun _ => rfl⟩
  let seed_text := strip (cfg.acceptance_criteria.getD "")
  if seed_text = "" then .ok added
  else Gates.create_criterion added db.gates.next tenant_id (seed_criterion seed_text)

def ReleaseTemplate.release_data (tpl : ReleaseTemplate) (data : ReleaseTemplateInstantiate)
    (template_id : ℕ) : Statuses.ReleaseCreate where
  name := data.name
  description := data.description
  release_type := tpl.release_type
  release_kind := "project"
  owning_project_id := none
  operations_group_id := none
  template_id := some template_id
  lifecycle_template_id := tpl.default_lifecycle_template_id
  target_date := some data.target_date
  scope_deadline := none
  custom_fields := data.custom_fields

/-- `create_release` returns the row it inserts, whose key is the next one. -/
def instantiate (db : Db) (template_id : ℕ) (data : ReleaseTemplateInstantiate)
    (tenant_id user_id : ℕ) : Except Raised Db := do
  let tpl ← _get_template db template_id tenant_id
  let statuses ← Statuses.create_release db.statuses (tpl.release_data data template_id) tenant_id
    user_id
  let release_id := db.statuses.releases.next
  let placed ← add_phases db.phases tpl data release_id tenant_id
  let gates ← (tpl.gates.getD []).foldlM
    (add_gate placed.phase_objects data.target_date release_id tenant_id) db.gates
  .ok { db with statuses := statuses, gates := gates, phases := placed.phases }

end EnvMgr.ReleaseTemplates
