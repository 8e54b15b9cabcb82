/-
What stands in an environment: `services/environment_system_service.py`, and the services
that create and delete subsystems.

A system is assigned to an environment, and a row for each of its subsystems says whether
the environment has the real one or a mock. The rows are made when the system is assigned
and taken away when it is removed. The subsystems themselves come and go in
`system_service.py` and in a scan.
-/
import EnvMgr.Bookings.CustomFields
import EnvMgr.Lifecycle.Service
import EnvMgr.Scanning.RoundTrip

namespace EnvMgr.Contents

open Bookings (CustomFieldDefinition Json validate_custom_fields)
open Scanning (ApplyResult ComponentDependency DeclaredState DependencySource DependencyType Refused
  SubSystem SubSystemSource)

/-! ## Tables -/

structure System where
  id : ℕ
  tenant_id : ℕ
  name : String
  deleted_at : Option DateTime
  deriving DecidableEq

structure EnvironmentSystem where
  id : ℕ
  tenant_id : ℕ
  environment_id : ℕ
  system_id : ℕ
  deriving DecidableEq

structure EnvironmentSubSystem where
  id : ℕ
  tenant_id : ℕ
  environment_id : ℕ
  subsystem_id : ℕ
  is_mocked : Bool
  deriving DecidableEq

structure Db where
  environments : Table Environment Environment.id
  systems : Table System System.id
  catalogue : Scanning.Db
  environment_systems : Table EnvironmentSystem EnvironmentSystem.id
  environment_subsystems : Table EnvironmentSubSystem EnvironmentSubSystem.id
  custom_fields : List CustomFieldDefinition

/-- Environments and systems, and no subsystem yet. -/
def Db.opened (environments : Table Environment Environment.id)
    (systems : Table System System.id) (custom_fields : List CustomFieldDefinition) : Db :=
  ⟨environments, systems, Scanning.Db.fresh, Table.empty, Table.empty, custom_fields⟩

/-! ## Look-ups -/

/-- An `HTTPException` is one of the ways a scan is refused too. -/
def raised {α : Type} (r : Except Raised α) : Except Refused α := r.mapError .raised

def get_environment (db : Db) (env_id tenant_id : ℕ) : Except Raised Environment :=
  get_or_raise
    (db.environments.select_one fun e =>
      e.id = env_id ∧ e.tenant_id = tenant_id ∧ e.deleted_at = none)
    (http 404 "Environment not found")

def get_system (db : Db) (system_id tenant_id : ℕ) : Except Raised System :=
  get_or_raise
    (db.systems.select_one fun y =>
      y.id = system_id ∧ y.tenant_id = tenant_id ∧ y.deleted_at = none)
    (http 404 "System not found")

def get_subsystem (db : Db) (subsystem_id system_id tenant_id : ℕ) : Except Raised SubSystem :=
  get_or_raise
    (db.catalogue.subsystems.select_one fun s =>
      s.id = subsystem_id ∧ s.system_id = system_id ∧ s.tenant_id = tenant_id ∧
        s.deleted_at = none)
    (http 404 "SubSystem not found")

/-! ## Subsystems and systems -/

structure SubSystemCreate where
  name : String
  component_type : String
  technology : Option String
  custom_fields : Option (Dict Json)
  deriving DecidableEq

def SubSystemCreate.new (data : SubSystemCreate) (system_id tenant_id : ℕ) :
    Table.New SubSystem.id where
  row id :=
    { id := id
      tenant_id := tenant_id
      system_id := system_id
      name := data.name
      component_type := data.component_type
      technology := data.technology
      source := .MANUAL
      source_path := none
      deleted_at := none }
  key_row _ := rfl

/-- The definitions of custom fields, where their service looks them up. -/
def Db.custom (db : Db) : Bookings.Db :=
  Bookings.Db.fresh Table.empty ⟨[], [], [], [], [], db.custom_fields⟩

def create_subsystem (db : Db) (system_id : ℕ) (data : SubSystemCreate) (tenant_id : ℕ) :
    Except Refused Db := do
  let _ ← raised (get_system db system_id tenant_id)
  let existing ← raised (Lifecycle.scalar_one_or_none (db.catalogue.subsystems.select fun s =>
    s.name = data.name ∧ s.system_id = system_id ∧ s.tenant_id = tenant_id ∧ s.deleted_at = none))
  raised (raise_if (existing ≠ none)
    (http 409 "A subsystem with this name already exists in this system"))
  raised (validate_custom_fields db.custom tenant_id "subsystem" data.custom_fields none)
  let (catalogue, _) ← db.catalogue.add_subsystem (data.new system_id tenant_id)
  .ok { db with catalogue := catalogue }

def retired (now : DateTime) : Table.Edit SubSystem.id where
  apply s := { s with deleted_at := some now }
  key_apply _ := rfl

/-- `UPDATE subsystem SET deleted_at = now WHERE p`. -/
def retire (catalogue : Scanning.Db) (p : SubSystem → Bool) (now : DateTime) : Scanning.Db where
  subsystems := catalogue.subsystems.update p (retired now)
  dependencies := catalogue.dependencies
  endpoints := catalogue.endpoints
  uq_subsystem_system_name := by
    refine Table.unique_update (fun a b hclash => ?_) catalogue.uq_subsystem_system_name
    split_ifs at hclash
    · cases hclash.1
    · cases hclash.1
    · cases hclash.2.1
    · exact hclash
  uq_component_dep := catalogue.uq_component_dep
  fk_from := by
    intro d hd
    obtain ⟨s, hs, hid⟩ := catalogue.fk_from d hd
    refine ⟨_, Table.mem_update.2 ⟨s, hs, rfl⟩, ?_⟩
    split_ifs
    · exact hid
    · exact hid
  fk_to := by
    intro d hd
    obtain ⟨s, hs, hid⟩ := catalogue.fk_to d hd
    refine ⟨_, Table.mem_update.2 ⟨s, hs, rfl⟩, ?_⟩
    split_ifs
    · exact hid
    · exact hid
  fk_dependency := catalogue.fk_dependency

def delete_subsystem (db : Db) (subsystem_id system_id tenant_id : ℕ) (now : DateTime) :
    Except Refused Db := do
  let subsystem ← raised (get_subsystem db subsystem_id system_id tenant_id)
  .ok { db with catalogue := retire db.catalogue (fun s => s.id = subsystem.id) now }

/-- The subsystems are deleted with their system. -/
def delete_system (db : Db) (system_id tenant_id : ℕ) (now : DateTime) : Except Refused Db := do
  let system ← raised (get_system db system_id tenant_id)
  .ok { db with
    systems := db.systems.update (fun y => y.id = system.id)
      { apply y := { y with deleted_at := some now }, key_apply _ := rfl }
    catalogue := retire db.catalogue
      (fun s => s.system_id = system_id ∧ s.deleted_at = none) now }

/-- `reconcile.apply`, behind the look-up of the system that each of its callers makes. -/
def apply (db : Db) (system_id tenant_id : ℕ) (source : SubSystemSource)
    (edge_source : Option DependencySource) (declared : DeclaredState) : Except Refused Db := do
  let _ ← raised (get_system db system_id tenant_id)
  let (catalogue, _) ←
    Scanning.apply system_id tenant_id source db.catalogue edge_source declared
  .ok { db with catalogue := catalogue }

/-! ## Environments -/

def assignment (env_id system_id tenant_id : ℕ) : Table.New EnvironmentSystem.id :=
  ⟨fun id => ⟨id, tenant_id, env_id, system_id⟩, fun _ => rfl⟩

def materialised (env_id tenant_id : ℕ) (s : SubSystem) : Table.New EnvironmentSubSystem.id :=
  ⟨fun id => ⟨id, tenant_id, env_id, s.id, false⟩, fun _ => rfl⟩

/-- A subsystem that has a row in the environment gets no second one. -/
def add_system_to_environment (db : Db) (env_id system_id tenant_id : ℕ) : Except Refused Db := do
  let _ ← raised (get_environment db env_id tenant_id)
  let _ ← raised (get_system db system_id tenant_id)
  let existing ← raised (Lifecycle.scalar_one_or_none (db.environment_systems.select fun a =>
    a.environment_id = env_id ∧ a.system_id = system_id))
  raised (raise_if (existing ≠ none)
    (http 409 "System is already assigned to this environment"))
  let subsystems := db.catalogue.subsystems.select fun s =>
    s.system_id = system_id ∧ s.tenant_id = tenant_id ∧ s.deleted_at = none
  let unconflicting := subsystems.filter fun s =>
    ¬ ∃ r ∈ db.environment_subsystems, r.environment_id = env_id ∧ r.subsystem_id = s.id
  .ok { db with
    environment_systems := db.environment_systems.insert (assignment env_id system_id tenant_id)
    environment_subsystems :=
      db.environment_subsystems.insert_all (unconflicting.map (materialised env_id tenant_id)) }

def _get_env_system (db : Db) (env_id system_id tenant_id : ℕ) :
    Except Raised EnvironmentSystem := do
  let _ ← get_environment db env_id tenant_id
  get_or_raise
    (db.environment_systems.select_one fun a =>
      a.environment_id = env_id ∧ a.system_id = system_id ∧ a.tenant_id = tenant_id)
    (http 404 "System not found in this environment")

/-- The rows of deleted subsystems go too. -/
def remove_system_from_environment (db : Db) (env_id system_id tenant_id : ℕ) :
    Except Refused Db := do
  let env_sys ← raised (_get_env_system db env_id system_id tenant_id)
  let subsystem_ids := (db.catalogue.subsystems.select fun s =>
    s.system_id = system_id ∧ s.tenant_id = tenant_id).map SubSystem.id
  .ok { db with
    environment_systems := db.environment_systems.delete fun a => a.id = env_sys.id
    environment_subsystems := db.environment_subsystems.delete fun r =>
      r.environment_id = env_id ∧ r.subsystem_id ∈ subsystem_ids }

def delete_environment (db : Db) (env_id tenant_id : ℕ) (now : DateTime) : Except Refused Db := do
  let env ← raised (get_environment db env_id tenant_id)
  .ok { db with
    environments := db.environments.update (fun e => e.id = env.id)
      { apply e := { e with deleted_at := some now }, key_apply _ := rfl }
    environment_subsystems := db.environment_subsystems.delete fun r =>
      r.environment_id = env_id ∧ r.tenant_id = tenant_id }

/-! ## Verifying an environment -/

inductive DepStatus
  | satisfied
  | mocked
  | missing
  deriving DecidableEq

structure ComponentVerifyItem where
  from_subsystem_id : ℕ
  from_subsystem_name : String
  to_subsystem_id : ℕ
  to_subsystem_name : String
  dependency_type : DependencyType
  status : DepStatus
  deriving DecidableEq

/-- `dep.from_subsystem.name`, of a deleted subsystem too. -/
def subsystem_name (db : Db) (id : ℕ) : String :=
  match db.catalogue.subsystems.select_one fun s => s.id = id with
  | some s => s.name
  | none => s!"SubSystem#{id}"

/-- `env_sub_map`, with the whole row for its `is_mocked`. -/
def env_sub_map (db : Db) (env_id tenant_id : ℕ) : Index ℕ EnvironmentSubSystem :=
  Index.collect (fun r => some r.subsystem_id)
    (db.environment_subsystems.select fun r =>
      r.environment_id = env_id ∧ r.tenant_id = tenant_id)

def dep_status (env_sub_map : Index ℕ EnvironmentSubSystem) (to_id : ℕ) : DepStatus :=
  match env_sub_map.get to_id with
  | none => .missing
  | some r => if r.is_mocked then .mocked else .satisfied

/-- The component pass of `verify_environment`. -/
def verify_components (db : Db) (env_id tenant_id : ℕ) : List ComponentVerifyItem :=
  let system_ids := (db.environment_systems.select fun a => a.environment_id = env_id).map
    EnvironmentSystem.system_id
  let env_subsystem_ids := (db.catalogue.subsystems.select fun s =>
    s.system_id ∈ system_ids ∧ s.tenant_id = tenant_id ∧ s.deleted_at = none).map SubSystem.id
  (db.catalogue.dependencies.select fun d =>
    d.from_subsystem_id ∈ env_subsystem_ids ∧ d.tenant_id = tenant_id).map fun d =>
      { from_subsystem_id := d.from_subsystem_id
        from_subsystem_name := subsystem_name db d.from_subsystem_id
        to_subsystem_id := d.to_subsystem_id
        to_subsystem_name := subsystem_name db d.to_subsystem_id
        dependency_type := d.dependency_type
        status := dep_status (env_sub_map db env_id tenant_id) d.to_subsystem_id }

/-! ## The operations -/

inductive Operation
  | create_subsystem (system_id : ℕ) (data : SubSystemCreate) (tenant_id : ℕ)
  | delete_subsystem (subsystem_id system_id tenant_id : ℕ) (now : DateTime)
  | delete_system (system_id tenant_id : ℕ) (now : DateTime)
  | apply (system_id tenant_id : ℕ) (source : SubSystemSource)
      (edge_source : Option DependencySource) (declared : DeclaredState)
  | add_system_to_environment (env_id system_id tenant_id : ℕ)
  | remove_system_from_environment (env_id system_id tenant_id : ℕ)
  | delete_environment (env_id tenant_id : ℕ) (now : DateTime)

def handle (db : Db) : Operation → Except Refused Db
  | .create_subsystem system_id data tenant_id => create_subsystem db system_id data tenant_id
  | .delete_subsystem subsystem_id system_id tenant_id now =>
    delete_subsystem db subsystem_id system_id tenant_id now
  | .delete_system system_id tenant_id now => delete_system db system_id tenant_id now
  | .apply system_id tenant_id source edge_source declared =>
    apply db system_id tenant_id source edge_source declared
  | .add_system_to_environment env_id system_id tenant_id =>
    add_system_to_environment db env_id system_id tenant_id
  | .remove_system_from_environment env_id system_id tenant_id =>
    remove_system_from_environment db env_id system_id tenant_id
  | .delete_environment env_id tenant_id now => delete_environment db env_id tenant_id now

def step (db : Db) (operation : Operation) : Db := commit_or_rollback db (handle db operation)

end EnvMgr.Contents
