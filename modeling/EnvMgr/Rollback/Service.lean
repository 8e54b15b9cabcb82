/-
Rollback plans: `services/rollback_plan_service.py`.

A plan is for one system of one release. A deleted plan stays behind as a row, and the unique
constraint on release and system does not look at `deleted_at`: a plan that is written again
takes the deleted row over.
-/
import EnvMgr.Lib.Least
import EnvMgr.Lifecycle.Service

namespace EnvMgr.Rollback

open Lifecycle (scalar_one_or_none)

/-! ## Tables -/

def REVERSIBILITY_VALUES : List String := ["reversible", "lossy", "irreversible"]

structure System where
  id : ℕ
  tenant_id : ℕ
  name : String
  deriving DecidableEq

structure ReleaseSystem where
  id : ℕ
  tenant_id : ℕ
  release_id : ℕ
  system_id : ℕ
  role : String
  deriving DecidableEq

/-- The systems of the releases. -/
structure Attachments where
  systems : Table System System.id
  release_systems : Table ReleaseSystem ReleaseSystem.id
  /-- `uq_release_system`. -/
  unique : ∀ a ∈ release_systems, ∀ b ∈ release_systems,
    a.release_id = b.release_id → a.system_id = b.system_id → a = b

structure ReleaseRollbackPlan where
  id : ℕ
  tenant_id : ℕ
  release_id : ℕ
  system_id : ℕ
  steps : String
  reversibility : String
  estimated_minutes : Option ℕ
  notes : Option String
  agreed_by_user_id : Option ℕ
  agreed_at : Option DateTime
  deleted_at : Option DateTime
  /-- The schema is the only way in. -/
  known : reversibility ∈ REVERSIBILITY_VALUES
  deriving DecidableEq

structure Db where
  releases : Table Release Release.id
  attachments : Attachments
  plans : Table ReleaseRollbackPlan ReleaseRollbackPlan.id

def Db.opened (releases : Table Release Release.id) (attachments : Attachments) : Db :=
  ⟨releases, attachments, Table.empty⟩

structure RollbackPlanCreate where
  system_id : ℕ
  steps : String
  reversibility : String
  estimated_minutes : Option ℕ
  notes : Option String
  steps_length : 1 ≤ steps.length
  known : reversibility ∈ REVERSIBILITY_VALUES

/-! ## Writing -/

def _get_release (db : Db) (release_id tenant_id : ℕ) : Except Raised Release :=
  get_or_raise
    (db.releases.select_one fun r =>
      r.id = release_id ∧ r.tenant_id = tenant_id ∧ r.deleted_at = none)
    (http 404 "Release not found")

def _require_release_system (db : Db) (release_id system_id : ℕ) : Except Raised Unit := do
  let exists_ ← scalar_one_or_none (db.attachments.release_systems.select fun rs =>
    rs.release_id = release_id ∧ rs.system_id = system_id)
  raise_if (exists_ = none) (http 404 "This system is not attached to the release")

/-- The plan's columns that a payload sets. -/
def write (data : RollbackPlanCreate) (p : ReleaseRollbackPlan) : ReleaseRollbackPlan :=
  { p with
    steps := data.steps
    reversibility := data.reversibility
    estimated_minutes := data.estimated_minutes
    notes := data.notes
    known := data.known }

def disagree (p : ReleaseRollbackPlan) : ReleaseRollbackPlan :=
  { p with agreed_by_user_id := none, agreed_at := none }

/-- A revived plan is not an agreed plan. -/
def revive (data : RollbackPlanCreate) : Table.Edit ReleaseRollbackPlan.id where
  apply p := disagree (write data { p with deleted_at := none })
  key_apply _ := rfl

/-- Not re-agreed on update: another text is not what was agreed to. -/
def rewrite (data : RollbackPlanCreate) : Table.Edit ReleaseRollbackPlan.id where
  apply p :=
    if p.steps ≠ data.steps ∨ p.reversibility ≠ data.reversibility then write data (disagree p)
    else write data p
  key_apply p := by split <;> rfl

def new_plan (tenant_id release_id : ℕ) (data : RollbackPlanCreate) :
    Table.New ReleaseRollbackPlan.id where
  row n :=
    { id := n
      tenant_id := tenant_id
      release_id := release_id
      system_id := data.system_id
      steps := data.steps
      reversibility := data.reversibility
      estimated_minutes := data.estimated_minutes
      notes := data.notes
      agreed_by_user_id := none
      agreed_at := none
      deleted_at := none
      known := data.known }
  key_row _ := rfl

/-- A plan of the tenant for the system of the release. -/
def is_for (release_id system_id tenant_id : ℕ) (p : ReleaseRollbackPlan) : Prop :=
  p.release_id = release_id ∧ p.system_id = system_id ∧ p.tenant_id = tenant_id
  deriving Decidable

/-- `db.add(plan)`, under `uq_rollback_plan_release_system`. -/
def add_plan (db : Db) (tenant_id release_id : ℕ) (data : RollbackPlanCreate) :
    Except Raised Db := do
  raise_if (∃ p ∈ db.plans, p.release_id = release_id ∧ p.system_id = data.system_id)
    .IntegrityError
  .ok { db with plans := db.plans.insert (new_plan tenant_id release_id data) }

def upsert_plan (db : Db) (release_id tenant_id : ℕ) (data : RollbackPlanCreate) :
    Except Raised Db := do
  let _ ← _get_release db release_id tenant_id
  _require_release_system db release_id data.system_id
  let existing ← scalar_one_or_none (db.plans.select fun p =>
    is_for release_id data.system_id tenant_id p ∧ p.deleted_at = none)
  match existing with
  | none =>
    let revived ← scalar_one_or_none (db.plans.select fun p =>
      is_for release_id data.system_id tenant_id p ∧ p.deleted_at ≠ none)
    match revived with
    | some plan => .ok { db with plans := db.plans.update (fun p => p.id = plan.id) (revive data) }
    | none => add_plan db tenant_id release_id data
  | some plan => .ok { db with plans := db.plans.update (fun p => p.id = plan.id) (rewrite data) }

/-- The live plan under an id, if it is of the release that the URL names. -/
def find_plan (db : Db) (release_id plan_id tenant_id : ℕ) : Except Raised ReleaseRollbackPlan := do
  let plan ← get_or_raise
    (db.plans.select_one fun p =>
      p.id = plan_id ∧ p.tenant_id = tenant_id ∧ p.deleted_at = none)
    (http 404 "Rollback plan not found")
  raise_if (plan.release_id ≠ release_id) (http 404 "Rollback plan not found")
  .ok plan

def agree (user_id : ℕ) (now : DateTime) : Table.Edit ReleaseRollbackPlan.id where
  apply p := { p with agreed_by_user_id := some user_id, agreed_at := some now }
  key_apply _ := rfl

def agree_plan (db : Db) (release_id plan_id tenant_id user_id : ℕ) (now : DateTime) :
    Except Raised Db := do
  let plan ← find_plan db release_id plan_id tenant_id
  .ok { db with plans := db.plans.update (fun p => p.id = plan.id) (agree user_id now) }

def mark_deleted (now : DateTime) : Table.Edit ReleaseRollbackPlan.id where
  apply p := { p with deleted_at := some now }
  key_apply _ := rfl

def delete_plan (db : Db) (release_id plan_id tenant_id : ℕ) (now : DateTime) :
    Except Raised Db := do
  let plan ← find_plan db release_id plan_id tenant_id
  .ok { db with plans := db.plans.update (fun p => p.id = plan.id) (mark_deleted now) }

/-! ## Requests -/

/-- The three operations, and what other services do to releases and their systems. -/
inductive Request
  | upsert (release_id tenant_id : ℕ) (data : RollbackPlanCreate)
  | agree (release_id plan_id tenant_id user_id : ℕ) (now : DateTime)
  | delete (release_id plan_id tenant_id : ℕ) (now : DateTime)
  | release_created (tenant_id : ℕ)
  | release_deleted (release_id : ℕ) (now : DateTime)
  | attached (attachments : Attachments)

def new_release (tenant_id : ℕ) : Table.New Release.id where
  row n := ⟨n, tenant_id, none⟩
  key_row _ := rfl

def delete_release (now : DateTime) : Table.Edit Release.id where
  apply r := { r with deleted_at := some now }
  key_apply _ := rfl

def handle (db : Db) : Request → Except Raised Db
  | .upsert release_id tenant_id data => upsert_plan db release_id tenant_id data
  | .agree release_id plan_id tenant_id user_id now =>
    agree_plan db release_id plan_id tenant_id user_id now
  | .delete release_id plan_id tenant_id now => delete_plan db release_id plan_id tenant_id now
  | .release_created tenant_id =>
    .ok { db with releases := db.releases.insert (new_release tenant_id) }
  | .release_deleted release_id now =>
    .ok { db with releases := db.releases.update (fun r => r.id = release_id) (delete_release now) }
  | .attached attachments => .ok { db with attachments := attachments }

def step (db : Db) (request : Request) : Db := commit_or_rollback db (handle db request)

/-! ## Reading -/

/-- The live plans of each release. -/
def plans_for_releases (db : Db) (tenant_id : ℕ) (release_ids : List ℕ) :
    Index ℕ (List ReleaseRollbackPlan) :=
  Index.group ReleaseRollbackPlan.release_id id (db.plans.select fun p =>
    p.release_id ∈ release_ids ∧ p.tenant_id = tenant_id ∧ p.deleted_at = none)

/-- The systems that the release changes, with their names. -/
def changing_systems_for_release (db : Db) (release_id tenant_id : ℕ) : List (ℕ × String) :=
  (db.attachments.release_systems.select fun rs =>
    rs.release_id = release_id ∧ (rs.role = "changing" ∨ rs.role = "config_only") ∧
      ∃ r ∈ db.releases, r.id = rs.release_id ∧ r.tenant_id = tenant_id ∧
        r.deleted_at = none).filterMap fun rs =>
    (db.attachments.systems.select_one fun s => s.id = rs.system_id ∧ s.tenant_id = tenant_id).map
      fun s => (s.id, s.name)

/-- `order.get(value, len(REVERSIBILITY_VALUES))`: a value that is not known is the worst. -/
def severity (value : String) : ℕ := REVERSIBILITY_VALUES.idxOf value

/-- `max(.., key=..)`: the first of the worst. -/
def rollup (plans : List ReleaseRollbackPlan) : Option String :=
  least (fun value => OrderDual.toDual (severity value))
    (plans.map ReleaseRollbackPlan.reversibility)

end EnvMgr.Rollback
