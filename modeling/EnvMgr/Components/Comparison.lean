/-
The comparison of two environments: `environment_comparison.py` and
`environment_comparison_service.py`.

Everything is read for each side on its own and compared in memory. The rows of the answer come
from a set of ids, which Python goes through in no order that anybody knows, and are sorted
afterwards; so nothing may be left of that order once they are. The order in which a set is gone
through is a parameter here, and so is `str.lower`.
-/
import EnvMgr.Components.Model

namespace EnvMgr.Components

open Contents (System)
open Deployments (EnvironmentSubSystemVersion)
open Scanning (SubSystem)

/-! ## Hosts -/

structure HostCount where
  component_type : String
  role : Option String
  count : ℕ
  deriving DecidableEq

/-- `(entry["component_type"], entry["role"] is None, entry["role"] or "")`. -/
def HostCount.sort_key (entry : HostCount) : String ×ₗ Bool ×ₗ String :=
  toLex (entry.component_type, toLex (entry.role.isNone, entry.role.getD ""))

/-- `Counter(attachments).items()`. -/
def counted (attachments : List (String × Option String)) : List HostCount :=
  attachments.eraseDups.map fun a => ⟨a.1, a.2, attachments.count a⟩

def host_shape (attachments : List (String × Option String)) : List HostCount :=
  order_by HostCount.sort_key (counted attachments)

/-! ## One side -/

structure Side where
  subsystem_id : ℕ
  name : String
  system_id : ℕ
  system_name : String
  is_mocked : Bool
  mock_notes : Option String
  version : Option String
  host_shape : List HostCount
  deriving DecidableEq

section

variable (db : Db) (env_id tenant_id : ℕ)

def _systems : Index ℕ String :=
  Index.fill Prod.fst Prod.snd
    ((db.environment_systems.select fun a =>
        a.environment_id = env_id ∧ a.tenant_id = tenant_id).flatMap fun a =>
      (db.systems.select fun y =>
        y.id = a.system_id ∧ y.tenant_id = tenant_id ∧ y.deleted_at = none).map fun y =>
          (y.id, y.name))

/-- The components with their subsystems and systems. -/
def side_rows : List (EnvironmentSubSystem × SubSystem × System) :=
  (db.environment_subsystems.select fun r =>
      r.environment_id = env_id ∧ r.tenant_id = tenant_id).flatMap fun r =>
    (db.subsystems.select fun s =>
        s.id = r.subsystem_id ∧ s.tenant_id = tenant_id ∧ s.deleted_at = none).flatMap fun s =>
      (db.systems.select fun y =>
        y.id = s.system_id ∧ y.tenant_id = tenant_id ∧ y.deleted_at = none).map fun y => (r, s, y)

/-- `hosts[env_sub_id]`. -/
def attachments (env_sub_id : ℕ) : List (String × Option String) :=
  (db.hosts.select fun h =>
      h.environment_subsystem_id = env_sub_id ∧ h.tenant_id = tenant_id ∧
        h.deleted_at = none).flatMap fun h =>
    (db.infrastructure.select fun c =>
      c.id = h.infrastructure_component_id ∧ c.tenant_id = tenant_id ∧ c.deleted_at = none).map
        fun c => (c.component_type.value, h.role)

def side_of (versions : Index ℕ String) (row : EnvironmentSubSystem × SubSystem × System) :
    Side where
  subsystem_id := row.2.1.id
  name := row.2.1.name
  system_id := row.2.2.id
  system_name := row.2.2.name
  is_mocked := row.1.is_mocked
  mock_notes := row.1.mock_notes
  version := versions.get row.2.1.id
  host_shape := host_shape (attachments db tenant_id row.1.id)

/-- By subsystem. -/
def _side : Except Raised (Index ℕ Side) := do
  let (version_rows, _) ←
    Deployments.list_versions db.deployments env_id tenant_id true none
  let versions := Index.fill EnvironmentSubSystemVersion.subsystem_id
    EnvironmentSubSystemVersion.version_label version_rows
  .ok (Index.fill (fun row => row.2.1.id) (side_of db tenant_id versions)
    (side_rows db env_id tenant_id))

end

/-! ## What differs -/

inductive Presence
  | both
  | left_only
  | right_only
  deriving DecidableEq

def _presence (in_left in_right : Bool) : Presence :=
  if in_left && in_right then .both else if in_left then .left_only else .right_only

inductive Kind
  | presence
  | mocked
  | version
  | host_shape
  deriving DecidableEq

def _KINDS : List Kind := [.presence, .mocked, .version, .host_shape]

def _KIND_ORDER : List Kind := [.mocked, .version, .host_shape]

/-- What an error message says of a side. -/
def given (side : Option Side) : String := if side.isNone then "None" else "present"

/-- `differing[kind]`, of the kinds in `_KIND_ORDER`. -/
def differing (left right : Side) : Kind → Bool
  | .mocked => left.is_mocked ≠ right.is_mocked
  | .version => left.version ≠ right.version
  | .host_shape => left.host_shape ≠ right.host_shape
  | .presence => false

/-- `ValueError`, with its text, where a side that is there is missing. -/
def difference_kinds (presence : Presence) (left right : Option Side) :
    Except String (List Kind) :=
  if presence ≠ .both then .ok [.presence]
  else
    match left, right with
    | some left, some right => .ok (_KIND_ORDER.filter (differing left right))
    | left, right => .error ("presence=\"both\" requires both sides; got left=" ++ given left
        ++ ", right=" ++ given right)

/-! ## The comparison -/

structure Payload where
  is_mocked : Bool
  mock_notes : Option String
  version : Option String
  host_shape : List HostCount
  deriving DecidableEq

def _payload (side : Option Side) : Option Payload :=
  side.map fun side => ⟨side.is_mocked, side.mock_notes, side.version, side.host_shape⟩

structure ComparedSystem where
  system_id : ℕ
  name : String
  presence : Presence
  deriving DecidableEq

structure ComparedSubsystem where
  subsystem_id : ℕ
  name : String
  system_id : ℕ
  system_name : String
  presence : Presence
  left : Option Payload
  right : Option Payload
  differences : List Kind
  deriving DecidableEq

structure ComparedEnvironment where
  id : ℕ
  name : String
  status : EnvironmentStatus
  deriving DecidableEq

structure Summary where
  compared : ℕ
  differing : ℕ
  by_kind : List (Kind × ℕ)
  deriving DecidableEq

structure Comparison where
  left : ComparedEnvironment
  right : ComparedEnvironment
  systems : List ComparedSystem
  subsystems : List ComparedSubsystem
  summary : Summary
  deriving DecidableEq

/-- The order in which a set is gone through. -/
structure Iteration where
  order : List ℕ → List ℕ
  perm : ∀ ids, (order ids).Perm ids

/-- `set(left) | set(right)`. -/
def union {α : Type} (left right : Index ℕ α) : List ℕ := (left.keys ++ right.keys).eraseDups

def compared_system (left right : Index ℕ String) (sid : ℕ) : Except Raised ComparedSystem := do
  let name ← get_or_raise ((left.get sid).or (right.get sid)) .KeyError
  .ok ⟨sid, name, _presence (left.get sid).isSome (right.get sid).isSome⟩

def compared_subsystem (left_side right_side : Index ℕ Side) (sub_id : ℕ) :
    Except Raised ComparedSubsystem := do
  let left := left_side.get sub_id
  let right := right_side.get sub_id
  let info ← get_or_raise (left.or right) .TypeError
  let presence := _presence left.isSome right.isSome
  let differences ← (difference_kinds presence left right).mapError fun _ => .ValueError
  .ok
    { subsystem_id := sub_id
      name := info.name
      system_id := info.system_id
      system_name := info.system_name
      presence := presence
      left := _payload left
      right := _payload right
      differences := differences }

def compared_environment (env : Environment) : ComparedEnvironment := ⟨env.id, env.name, env.status⟩

def summary_of (subsystems : List ComparedSubsystem) : Summary where
  compared := subsystems.length
  differing := subsystems.countP fun r => r.differences ≠ []
  by_kind := _KINDS.map fun kind => (kind, subsystems.countP fun r => kind ∈ r.differences)

section

variable (lower : String → String)

def ComparedSystem.sort_key (s : ComparedSystem) : String ×ₗ ℕ := toLex (lower s.name, s.system_id)

/-- Differing first, then by system and subsystem name, with the id as a tiebreaker. -/
def ComparedSubsystem.sort_key (r : ComparedSubsystem) : Bool ×ₗ String ×ₗ String ×ₗ ℕ :=
  toLex (r.differences.isEmpty, toLex (lower r.system_name, toLex (lower r.name, r.subsystem_id)))

variable (iteration : Iteration)

/-- What is compared of an environment. -/
structure Reading where
  env : Environment
  systems : Index ℕ String
  side : Index ℕ Side

def compare_readings (left right : Reading) : Except Raised Comparison := do
  let systems ← (order_by id (union left.systems right.systems)).mapM
    (compared_system left.systems right.systems)
  let rows ← (iteration.order (union left.side right.side)).mapM
    (compared_subsystem left.side right.side)
  let subsystems := order_by (ComparedSubsystem.sort_key lower) rows
  .ok
    { left := compared_environment left.env
      right := compared_environment right.env
      systems := order_by (ComparedSystem.sort_key lower) systems
      subsystems := subsystems
      summary := summary_of subsystems }

def compare_environments (db : Db) (left_id right_id tenant_id : ℕ) :
    Except Raised Comparison := do
  let left_env ← get_environment db left_id tenant_id
  let right_env ← get_environment db right_id tenant_id
  let left_systems := _systems db left_id tenant_id
  let right_systems := _systems db right_id tenant_id
  let left_side ← _side db left_id tenant_id
  let right_side ← _side db right_id tenant_id
  compare_readings lower iteration ⟨left_env, left_systems, left_side⟩
    ⟨right_env, right_systems, right_side⟩

end

end EnvMgr.Components
