/-
The subsystem catalogue and what a repository declares.

The catalogue is three tables: the subsystems of a system, the dependency edges
between subsystems and the endpoints documented on an edge. The unique indexes
and foreign keys the database keeps on them are fields of `Db`, so that a
catalogue with two live subsystems of one name, or with two edges for one pair,
cannot be written down. A statement that would break one raises instead.
-/
import EnvMgr.Core.Directory
import EnvMgr.Lib.Index
import EnvMgr.Lib.Table

namespace EnvMgr.Scanning

/-! ## Columns -/

inductive SubSystemSource
  | MANUAL
  | TERRAFORM
  | TERRAFORM_HCL
  | DOCKER_COMPOSE
  deriving DecidableEq

def SubSystemSource.value : SubSystemSource → String
  | MANUAL => "manual"
  | TERRAFORM => "terraform"
  | TERRAFORM_HCL => "terraform_hcl"
  | DOCKER_COMPOSE => "docker_compose"

inductive DependencyType
  | API_CALL
  | DATABASE
  | MESSAGE_QUEUE
  | EVENT
  | FILE
  | OTHER
  deriving DecidableEq

inductive DependencySource
  | MANUAL
  | TERRAFORM
  | DOCKER_COMPOSE
  deriving DecidableEq

def DependencySource.value : DependencySource → String
  | MANUAL => "manual"
  | TERRAFORM => "terraform"
  | DOCKER_COMPOSE => "docker_compose"

inductive DependencyDirection
  | ONE_WAY
  | TWO_WAY
  deriving DecidableEq

inductive HttpMethod
  | GET
  | POST
  | PUT
  | PATCH
  | DELETE
  | HEAD
  | OPTIONS
  deriving DecidableEq

/-! ## Rows -/

/-- `component_type` is the column's text; the enum behind it is a `str` and compares
as one. -/
structure SubSystem where
  id : ℕ
  tenant_id : ℕ
  system_id : ℕ
  name : String
  component_type : String
  technology : Option String
  source : SubSystemSource
  source_path : Option String
  deleted_at : Option DateTime
  deriving DecidableEq

structure ComponentDependency where
  id : ℕ
  tenant_id : ℕ
  from_subsystem_id : ℕ
  to_subsystem_id : ℕ
  dependency_type : DependencyType
  direction : DependencyDirection
  protocol : Option String
  port : Option ℤ
  source : DependencySource
  label : Option String
  deriving DecidableEq

structure ComponentEndpoint where
  id : ℕ
  tenant_id : ℕ
  dependency_id : ℕ
  http_method : Option HttpMethod
  path : String
  description : Option String
  deriving DecidableEq

/-- Two rows the index `uq_subsystem_system_name` does not allow side by side. -/
def SubSystem.Clashes (a b : SubSystem) : Prop :=
  a.deleted_at = none ∧ b.deleted_at = none ∧ a.system_id = b.system_id ∧ a.name = b.name
  deriving Decidable

/-- Two rows `uq_component_dep` does not allow side by side; `source` is not part of it. -/
def ComponentDependency.Clashes (a b : ComponentDependency) : Prop :=
  a.from_subsystem_id = b.from_subsystem_id ∧ a.to_subsystem_id = b.to_subsystem_id ∧
    a.tenant_id = b.tenant_id
  deriving Decidable

theorem SubSystem.Clashes.symm {a b : SubSystem} (h : a.Clashes b) : b.Clashes a :=
  ⟨h.2.1, h.1, h.2.2.1.symm, h.2.2.2.symm⟩

theorem ComponentDependency.Clashes.symm {a b : ComponentDependency} (h : a.Clashes b) :
    b.Clashes a :=
  ⟨h.1.symm, h.2.1.symm, h.2.2.symm⟩

@[ext] structure Db where
  subsystems : Table SubSystem SubSystem.id
  dependencies : Table ComponentDependency ComponentDependency.id
  endpoints : Table ComponentEndpoint ComponentEndpoint.id
  uq_subsystem_system_name : ∀ a ∈ subsystems, ∀ b ∈ subsystems, a.Clashes b → a = b
  uq_component_dep : ∀ a ∈ dependencies, ∀ b ∈ dependencies, a.Clashes b → a = b
  fk_from : ∀ d ∈ dependencies, ∃ s ∈ subsystems, s.id = d.from_subsystem_id
  fk_to : ∀ d ∈ dependencies, ∃ s ∈ subsystems, s.id = d.to_subsystem_id
  fk_dependency : ∀ e ∈ endpoints, ∃ d ∈ dependencies, d.id = e.dependency_id

/-- A catalogue with nothing in it. -/
def Db.fresh : Db where
  subsystems := Table.empty
  dependencies := Table.empty
  endpoints := Table.empty
  uq_subsystem_system_name _ h := absurd h (Table.not_mem_empty _)
  uq_component_dep _ h := absurd h (Table.not_mem_empty _)
  fk_from _ h := absurd h (Table.not_mem_empty _)
  fk_to _ h := absurd h (Table.not_mem_empty _)
  fk_dependency _ h := absurd h (Table.not_mem_empty _)

/-! ## Statements -/

inductive Constraint
  | uq_subsystem_system_name
  | uq_component_dep
  | fk_component_dependency
  | not_null
  deriving DecidableEq

/-- What a scan or an edit raises: an exception of the service, a `ValueError` with its
message, or the database's `IntegrityError` over one of its constraints. -/
inductive Refused
  | raised (e : Raised)
  | value_error (message : String)
  | violates (c : Constraint)
  deriving DecidableEq

/-- `db.add(SubSystem(..)); await db.flush()`, with the row as it then is. -/
def Db.add_subsystem (db : Db) (new : Table.New SubSystem.id) :
    Except Refused (Db × SubSystem) :=
  if h : ∀ a ∈ db.subsystems, ¬ a.Clashes (new.row db.subsystems.next) then
    .ok ({ db with
        subsystems := db.subsystems.insert new
        uq_subsystem_system_name :=
          Table.unique_insert SubSystem.Clashes.symm db.uq_subsystem_system_name h
        fk_from := by
          intro d hd
          obtain ⟨s, hs, hid⟩ := db.fk_from d hd
          exact ⟨s, Table.mem_insert.2 (Or.inl hs), hid⟩
        fk_to := by
          intro d hd
          obtain ⟨s, hs, hid⟩ := db.fk_to d hd
          exact ⟨s, Table.mem_insert.2 (Or.inl hs), hid⟩ },
      new.row db.subsystems.next)
  else .error (.violates .uq_subsystem_system_name)

/-- A change of a subsystem that leaves its identity alone. -/
structure SubSystem.Edit extends Table.Edit SubSystem.id where
  keeps : ∀ s, (apply s).system_id = s.system_id ∧ (apply s).tenant_id = s.tenant_id ∧
    (apply s).name = s.name ∧ (apply s).deleted_at = s.deleted_at

theorem SubSystem.Edit.clashes_iff (f : SubSystem.Edit) (a b : SubSystem) :
    a.Clashes (f.apply b) ↔ a.Clashes b := by
  obtain ⟨hsystem, -, hname, hdeleted⟩ := f.keeps b
  rw [Clashes, Clashes, hsystem, hname, hdeleted]

/-- The attributes of one loaded row are assigned to and flushed. -/
def Db.update_subsystem (db : Db) (row_id : ℕ) (f : SubSystem.Edit) : Db where
  subsystems := db.subsystems.update (fun s => s.id = row_id) f.toEdit
  dependencies := db.dependencies
  endpoints := db.endpoints
  uq_subsystem_system_name := by
    intro a ha b hb hab
    obtain ⟨a₀, ha₀, rfl⟩ := Table.mem_update.1 ha
    obtain ⟨b₀, hb₀, rfl⟩ := Table.mem_update.1 hb
    have hclash : ∀ c d : SubSystem, c.Clashes (if (decide (d.id = row_id)) = true then f.apply d
        else d) ↔ c.Clashes d := by
      intro c d
      split
      · exact f.clashes_iff c d
      · exact Iff.rfl
    have h₀ : a₀.Clashes b₀ :=
      ((hclash b₀ a₀).1 (((hclash _ b₀).1 hab).symm)).symm
    rw [db.uq_subsystem_system_name a₀ ha₀ b₀ hb₀ h₀]
  uq_component_dep := db.uq_component_dep
  fk_from := by
    intro d hd
    obtain ⟨s, hs, hid⟩ := db.fk_from d hd
    refine ⟨_, Table.mem_update.2 ⟨s, hs, rfl⟩, ?_⟩
    split
    · exact (f.key_apply s).trans hid
    · exact hid
  fk_to := by
    intro d hd
    obtain ⟨s, hs, hid⟩ := db.fk_to d hd
    refine ⟨_, Table.mem_update.2 ⟨s, hs, rfl⟩, ?_⟩
    split
    · exact (f.key_apply s).trans hid
    · exact hid
  fk_dependency := db.fk_dependency

/-- The endpoints documented on an edge. -/
def Db.endpoints_of (db : Db) (d : ComponentDependency) : List ComponentEndpoint :=
  db.endpoints.select fun e => e.dependency_id = d.id

/-- `delete(ComponentDependency).where(p)`. The foreign key of the endpoints cascades. -/
def Db.delete_dependencies (db : Db) (p : ComponentDependency → Bool) : Db where
  subsystems := db.subsystems
  dependencies := db.dependencies.delete p
  endpoints := db.endpoints.delete fun e =>
    decide (∃ d ∈ db.dependencies, d.id = e.dependency_id ∧ p d = true)
  uq_subsystem_system_name := db.uq_subsystem_system_name
  uq_component_dep := fun a ha b hb =>
    db.uq_component_dep a (Table.mem_delete.1 ha).1 b (Table.mem_delete.1 hb).1
  fk_from := fun d hd => db.fk_from d (Table.mem_delete.1 hd).1
  fk_to := fun d hd => db.fk_to d (Table.mem_delete.1 hd).1
  fk_dependency := by
    intro e he
    obtain ⟨he, hkept⟩ := Table.mem_delete.1 he
    obtain ⟨d, hd, hid⟩ := db.fk_dependency e he
    refine ⟨d, Table.mem_delete.2 ⟨hd, ?_⟩, hid⟩
    cases hp : p d with
    | false => rfl
    | true => exact absurd ⟨d, hd, hid, hp⟩ (of_decide_eq_false hkept)

/-- `db.add(ComponentDependency(..))` and its flush. -/
def Db.add_dependency (db : Db) (new : Table.New ComponentDependency.id) : Except Refused Db :=
  let row := new.row db.dependencies.next
  if hfk : (∃ s ∈ db.subsystems, s.id = row.from_subsystem_id) ∧
      (∃ s ∈ db.subsystems, s.id = row.to_subsystem_id) then
    if h : ∀ a ∈ db.dependencies, ¬ a.Clashes row then
      .ok { db with
        dependencies := db.dependencies.insert new
        uq_component_dep :=
          Table.unique_insert ComponentDependency.Clashes.symm db.uq_component_dep h
        fk_from := (Table.forall_insert_iff db.fk_from).2 hfk.1
        fk_to := (Table.forall_insert_iff db.fk_to).2 hfk.2
        fk_dependency := by
          intro e he
          obtain ⟨d, hd, hid⟩ := db.fk_dependency e he
          exact ⟨d, Table.mem_insert.2 (Or.inl hd), hid⟩ }
    else .error (.violates .uq_component_dep)
  else .error (.violates .fk_component_dependency)

/-! ## Declarations -/

structure DeclaredSubsystem where
  name : String
  component_type : String
  technology : Option String
  source_path : String
  deriving DecidableEq

structure DeclaredEdge where
  from_name : String
  to_name : String
  port : Option ℤ
  source_path : String
  deriving DecidableEq

structure DeclaredState where
  subsystems : List DeclaredSubsystem
  edges : List DeclaredEdge
  warnings : List String
  deriving DecidableEq

end EnvMgr.Scanning
