/-
The components of an environment, with what is recorded of them: the tables that
`get_environment_subsystems` and `compare_environments` read.

A component is a subsystem that has a row in the environment, and the row says whether it is
mocked. Versions are recorded against the pair of environment and subsystem, hosts against the
row. None of the statements that read these tables for a dictionary has an ORDER BY, so what
comes of them has to be said for the tables as they are and for the tables read in another order.
-/
import EnvMgr.Contents.Service
import EnvMgr.Deployments.Model
import EnvMgr.Lib.Reordered

namespace EnvMgr.Components

open Bookings (Json)
open Contents (EnvironmentSystem System)
open Deployments (EnvironmentSubSystemVersion)
open Scanning (SubSystem)
open Table (Reordered)

/-! ## Tables -/

structure EnvironmentSubSystem extends Contents.EnvironmentSubSystem where
  mock_notes : Option String
  component_type_definition_id : Option ℕ
  custom_fields : Option (Dict Json)
  deriving DecidableEq

def EnvironmentSubSystem.key (r : EnvironmentSubSystem) : ℕ := r.id

structure ComponentTypeDefinition where
  id : ℕ
  name : String
  deriving DecidableEq

inductive InfrastructureComponentType
  | SERVER
  | CONTAINER_RUNTIME
  | KUBERNETES_CLUSTER
  | MANAGED_DATABASE
  | LOAD_BALANCER
  | NETWORK
  | CDN
  | QUEUE
  | CACHE
  | OTHER
  deriving DecidableEq

def InfrastructureComponentType.value : InfrastructureComponentType → String
  | SERVER => "server"
  | CONTAINER_RUNTIME => "container_runtime"
  | KUBERNETES_CLUSTER => "kubernetes_cluster"
  | MANAGED_DATABASE => "managed_database"
  | LOAD_BALANCER => "load_balancer"
  | NETWORK => "network"
  | CDN => "cdn"
  | QUEUE => "queue"
  | CACHE => "cache"
  | OTHER => "other"

structure InfrastructureComponent where
  id : ℕ
  tenant_id : ℕ
  component_type : InfrastructureComponentType
  deleted_at : Option DateTime
  deriving DecidableEq

structure EnvironmentSubSystemHost where
  id : ℕ
  tenant_id : ℕ
  environment_subsystem_id : ℕ
  infrastructure_component_id : ℕ
  role : Option String
  deleted_at : Option DateTime
  deriving DecidableEq

/-- The environments and the versions are those of `deployments`. -/
structure Db where
  deployments : Deployments.Db
  systems : Table System System.id
  subsystems : Table SubSystem SubSystem.id
  environment_systems : Table EnvironmentSystem EnvironmentSystem.id
  environment_subsystems : Table EnvironmentSubSystem EnvironmentSubSystem.key
  component_types : Table ComponentTypeDefinition ComponentTypeDefinition.id
  hosts : Table EnvironmentSubSystemHost EnvironmentSubSystemHost.id
  infrastructure : Table InfrastructureComponent InfrastructureComponent.id
  uq_env_subsystem : ∀ a ∈ environment_subsystems, ∀ b ∈ environment_subsystems,
    a.environment_id = b.environment_id → a.subsystem_id = b.subsystem_id → a = b
  fk_subsystem : ∀ r ∈ environment_subsystems, ∃ s ∈ subsystems, s.id = r.subsystem_id

def Db.environments (db : Db) : Table Environment Environment.id :=
  db.deployments.statuses.bookings.estate.environments

def Db.versions (db : Db) : Table EnvironmentSubSystemVersion EnvironmentSubSystemVersion.id :=
  db.deployments.versions

/-- The same rows, each table read in another order. -/
structure Reread (db db' : Db) : Prop where
  environments : Reordered db.environments db'.environments
  versions : Reordered db.versions db'.versions
  systems : Reordered db.systems db'.systems
  subsystems : Reordered db.subsystems db'.subsystems
  environment_systems : Reordered db.environment_systems db'.environment_systems
  environment_subsystems : Reordered db.environment_subsystems db'.environment_subsystems
  component_types : Reordered db.component_types db'.component_types
  hosts : Reordered db.hosts db'.hosts
  infrastructure : Reordered db.infrastructure db'.infrastructure

theorem Reread.refl (db : Db) : Reread db db :=
  ⟨List.Perm.refl _, List.Perm.refl _, List.Perm.refl _, List.Perm.refl _, List.Perm.refl _,
    List.Perm.refl _, List.Perm.refl _, List.Perm.refl _, List.Perm.refl _⟩

variable {db db' : Db} {env_id tenant_id : ℕ}

/-! ## What both services ask for -/

def get_environment (db : Db) (env_id tenant_id : ℕ) : Except Raised Environment :=
  Deployments.get_environment db.deployments env_id tenant_id

theorem get_environment_reread (h : Reread db db') :
    get_environment db' env_id tenant_id = get_environment db env_id tenant_id := by
  refine congrArg (fun found => get_or_raise found _)
    (h.environments.select_one fun a ha b hb hpa hpb => ?_)
  exact Table.eq_of_key_eq ha hb ((of_decide_eq_true hpa).1.trans (of_decide_eq_true hpb).1.symm)

theorem history_reread (h : Reread db db') :
    (Deployments.history db'.deployments env_id tenant_id).Perm
      (Deployments.history db.deployments env_id tenant_id) :=
  h.versions.select fun _ _ => rfl

/-- The current versions are in an order of their own, and a tie goes to the greater id. -/
theorem current_versions_reread (h : Reread db db') :
    Deployments.current_versions db'.deployments env_id tenant_id =
      Deployments.current_versions db.deployments env_id tenant_id := by
  have hperm : (Deployments.history db'.deployments env_id tenant_id).Perm
      (Deployments.history db.deployments env_id tenant_id) := history_reread h
  have hnumber : ∀ v, Deployments.row_number
        (Deployments.history db'.deployments env_id tenant_id) v =
      Deployments.row_number (Deployments.history db.deployments env_id tenant_id) v := by
    intro v
    rw [Deployments.row_number, Deployments.row_number, hperm.countP_eq]
  have hkept : ((Deployments.history db'.deployments env_id tenant_id).filter fun v =>
        Deployments.row_number (Deployments.history db'.deployments env_id tenant_id) v = 1).Perm
      ((Deployments.history db.deployments env_id tenant_id).filter fun v =>
        Deployments.row_number (Deployments.history db.deployments env_id tenant_id) v = 1) := by
    simp only [hnumber]
    exact hperm.filter _
  refine (OrderBy.answers_order_by _ _).unique (fun a ha b hb hab => ?_)
    (OrderBy.answers_order_by _ _) hkept
  have hmem : ∀ v ∈ (Deployments.history db.deployments env_id tenant_id).filter fun v =>
      Deployments.row_number (Deployments.history db.deployments env_id tenant_id) v = 1,
      v ∈ db.versions := fun v hv => (Table.mem_select.1 (List.mem_filter.1 hv).1).1
  exact Table.eq_of_key_eq (hmem a ha) (hmem b hb) (congrArg Prod.snd (toLex_inj.1 hab))

end EnvMgr.Components
