/-
The systems that are missing in an environment: `list_systems_in_environment` and
`verify_environment` over the dependencies between systems, which `dependency_service.py` keeps.

A dependency is made between two live systems of a tenant. Deleting a system is a soft delete: its
row stays, and so do the dependencies on it and its assignments to environments.

Whatever is done, rows of systems and environments never go away and keep their tenant; an
assignment is of the tenant of its environment, a dependency of the tenant of its target. So a
report about an environment can be read off the dependencies and the assignments alone.
-/
import EnvMgr.Contents.Carried

namespace EnvMgr.Contents

open Bookings (Json validate_custom_fields)
open Scanning (DependencyDirection DependencySource DependencyType Refused)

/-! ## Tables -/

structure SystemDependency where
  id : ℕ
  tenant_id : ℕ
  from_system_id : ℕ
  to_system_id : ℕ
  dependency_type : DependencyType
  direction : DependencyDirection
  source : DependencySource
  label : Option String
  deriving DecidableEq

/-- Environments and systems, with the dependencies between systems. -/
structure Linked where
  contents : Db
  dependencies : Table SystemDependency SystemDependency.id

def Linked.opened (environments : Table Environment Environment.id)
    (systems : Table System System.id)
    (custom_fields : List Bookings.CustomFieldDefinition) : Linked :=
  ⟨Db.opened environments systems custom_fields, Table.empty⟩

/-- `dep.to_system` and `row.system`, of a deleted system too. -/
def system_of (s : Linked) (system_id : ℕ) : Option System :=
  s.contents.systems.select_one fun y => y.id = system_id

/-! ## Listing -/

structure SystemSummary where
  id : ℕ
  name : String
  deriving DecidableEq

structure EnvironmentSystemResponse where
  id : ℕ
  environment_id : ℕ
  system_id : ℕ
  system : System
  deriving DecidableEq

structure EnvironmentSystemsResponse where
  systems : List EnvironmentSystemResponse
  missing_systems : List SystemSummary
  deriving DecidableEq

/-- A response without its system would not be valid. -/
def system_response (s : Linked) (row : EnvironmentSystem) :
    Except Raised EnvironmentSystemResponse := do
  let system ← get_or_raise (system_of s row.system_id) .ValueError
  .ok ⟨row.id, row.environment_id, row.system_id, system⟩

def list_systems_in_environment (s : Linked) (env_id tenant_id : ℕ) :
    Except Raised EnvironmentSystemsResponse := do
  let _ ← get_environment s.contents env_id tenant_id
  let env_sys_rows := s.contents.environment_systems.select fun a =>
    a.environment_id = env_id ∧ a.tenant_id = tenant_id
  let assigned_system_ids := env_sys_rows.map EnvironmentSystem.system_id
  let deps := s.dependencies.select fun d =>
    d.from_system_id ∈ assigned_system_ids ∧ d.tenant_id = tenant_id
  -- each target once, where it was first seen
  let seen_missing := ((deps.map SystemDependency.to_system_id).filter fun id =>
    id ∉ assigned_system_ids).eraseDups
  let systems ← env_sys_rows.mapM (system_response s)
  .ok
    { systems := systems
      missing_systems := seen_missing.filterMap fun id =>
        (system_of s id).map fun y => ⟨y.id, y.name⟩ }

/-! ## Verifying -/

structure SystemVerifyItem where
  to_system_id : ℕ
  to_system_name : String
  dependency_type : DependencyType
  status : DepStatus
  deriving DecidableEq

structure SystemVerify where
  system_id : ℕ
  system_name : String
  dependencies : List SystemVerifyItem
  deriving DecidableEq

structure EnvironmentVerify where
  environment_id : ℕ
  total_dependencies : ℕ
  satisfied_count : ℕ
  mocked_count : ℕ
  missing_count : ℕ
  systems : List SystemVerify
  component_total : ℕ
  component_satisfied : ℕ
  component_mocked : ℕ
  component_missing : ℕ
  component_dependencies : List ComponentVerifyItem
  deriving DecidableEq

def to_system_name (s : Linked) (to_id : ℕ) : String :=
  match system_of s to_id with
  | some y => y.name
  | none => s!"System#{to_id}"

/-- No dependency between systems is mocked. -/
def verify_item (s : Linked) (system_ids : List ℕ) (dep : SystemDependency) : SystemVerifyItem where
  to_system_id := dep.to_system_id
  to_system_name := to_system_name s dep.to_system_id
  dependency_type := dep.dependency_type
  status := if dep.to_system_id ∈ system_ids then .satisfied else .missing

def verify_system (s : Linked) (system_ids : List ℕ) (all_deps : List SystemDependency)
    (system_id : ℕ) : Except Raised SystemVerify := do
  let system ← get_or_raise (system_of s system_id) .AttributeError
  .ok
    { system_id := system_id
      system_name := system.name
      dependencies := (all_deps.filter fun d => d.from_system_id = system_id).map
        (verify_item s system_ids) }

def verify_environment (s : Linked) (env_id tenant_id : ℕ) : Except Raised EnvironmentVerify := do
  let _ ← get_environment s.contents env_id tenant_id
  let env_system_map := Index.collect (fun a => some a.system_id)
    (s.contents.environment_systems.select fun a => a.environment_id = env_id)
  let system_ids := env_system_map.keys
  let all_deps := s.dependencies.select fun d =>
    d.from_system_id ∈ system_ids ∧ d.tenant_id = tenant_id
  let systems ← system_ids.mapM (verify_system s system_ids all_deps)
  let items := systems.flatMap SystemVerify.dependencies
  let components := verify_components s.contents env_id tenant_id
  .ok
    { environment_id := env_id
      total_dependencies := items.length
      satisfied_count := items.countP fun i => i.status = .satisfied
      mocked_count := items.countP fun i => i.status = .mocked
      missing_count := items.countP fun i => i.status = .missing
      systems := systems
      component_total := components.length
      component_satisfied := components.countP fun i => i.status = .satisfied
      component_mocked := components.countP fun i => i.status = .mocked
      component_missing := components.countP fun i => i.status = .missing
      component_dependencies := components }

/-! ## Systems: `system_service` -/

structure SystemCreate where
  name : String
  custom_fields : Option (Dict Json)
  deriving DecidableEq

def SystemCreate.new (data : SystemCreate) (tenant_id : ℕ) : Table.New System.id :=
  ⟨fun id => ⟨id, tenant_id, data.name, none⟩, fun _ => rfl⟩

structure SystemUpdate where
  name : Sent String
  custom_fields : Sent (Dict Json)
  deriving DecidableEq

def name_taken : Raised := http 409 "A system with this name already exists in this tenant"

def create_system (s : Linked) (data : SystemCreate) (tenant_id : ℕ) : Except Refused Linked := do
  let existing ← raised (Lifecycle.scalar_one_or_none (s.contents.systems.select fun y =>
    y.name = data.name ∧ y.tenant_id = tenant_id ∧ y.deleted_at = none))
  raised (raise_if (existing ≠ none) name_taken)
  raised (validate_custom_fields s.contents.custom tenant_id "system" data.custom_fields none)
  let systems := s.contents.systems.insert (data.new tenant_id)
  .ok { s with contents := { s.contents with systems := systems } }

/-- Another live system has the name that was sent. -/
def renames_to_taken (s : Linked) (system : System) (tenant_id : ℕ) (name : Option String) :
    Except Raised Unit :=
  match name with
  | none => .ok ()
  | some name =>
    if name = system.name then .ok ()
    else do
      let existing ← Lifecycle.scalar_one_or_none (s.contents.systems.select fun y =>
        y.name = name ∧ y.tenant_id = tenant_id ∧ y.id ≠ system.id ∧ y.deleted_at = none)
      raise_if (existing ≠ none) name_taken

def renamed (name : String) : Table.Edit System.id where
  apply y := { y with name := name }
  key_apply _ := rfl

/-- The column of the name takes no null. -/
def update_system (s : Linked) (system_id : ℕ) (data : SystemUpdate) (tenant_id : ℕ) :
    Except Refused Linked := do
  let system ← raised (get_system s.contents system_id tenant_id)
  raised (renames_to_taken s system tenant_id (data.name.set_nullable none))
  raised (for_each (data.custom_fields.set_nullable none).toList fun fields =>
    validate_custom_fields s.contents.custom tenant_id "system" (some fields) none)
  let name ← raised (get_or_raise (data.name.get system.name) .IntegrityError)
  let systems := s.contents.systems.update (fun y => y.id = system.id) (renamed name)
  .ok { s with contents := { s.contents with systems := systems } }

/-! ## Dependencies: `dependency_service` -/

structure SystemDependencyCreate where
  to_system_id : ℕ
  dependency_type : DependencyType
  direction : DependencyDirection
  source : DependencySource
  label : Option String
  deriving DecidableEq

def SystemDependencyCreate.new (data : SystemDependencyCreate) (system_id tenant_id : ℕ) :
    Table.New SystemDependency.id where
  row id :=
    { id := id
      tenant_id := tenant_id
      from_system_id := system_id
      to_system_id := data.to_system_id
      dependency_type := data.dependency_type
      direction := data.direction
      source := data.source
      label := data.label }
  key_row _ := rfl

structure SystemDependencyUpdate where
  dependency_type : Sent DependencyType
  direction : Sent DependencyDirection
  source : Sent DependencySource
  label : Sent String
  deriving DecidableEq

def create_system_dependency (s : Linked) (system_id : ℕ) (data : SystemDependencyCreate)
    (tenant_id : ℕ) : Except Refused Linked := do
  let _ ← raised (get_system s.contents system_id tenant_id)
  raised (raise_if (data.to_system_id = system_id) (http 400 "A system cannot depend on itself"))
  let _ ← raised (get_or_raise
    (s.contents.systems.select_one fun y =>
      y.id = data.to_system_id ∧ y.tenant_id = tenant_id ∧ y.deleted_at = none)
    (http 404 "Target system not found in this tenant"))
  let existing ← raised (Lifecycle.scalar_one_or_none (s.dependencies.select fun d =>
    d.from_system_id = system_id ∧ d.to_system_id = data.to_system_id ∧ d.tenant_id = tenant_id))
  raised (raise_if (existing ≠ none) (http 409 "This dependency already exists"))
  .ok { s with dependencies := s.dependencies.insert (data.new system_id tenant_id) }

def _get_dependency (s : Linked) (dep_id system_id tenant_id : ℕ) :
    Except Raised SystemDependency :=
  get_or_raise
    (s.dependencies.select_one fun d =>
      d.id = dep_id ∧ d.tenant_id = tenant_id ∧
        (d.from_system_id = system_id ∨ d.to_system_id = system_id))
    (http 404 "Dependency not found")

def delete_system_dependency (s : Linked) (dep_id system_id tenant_id : ℕ) :
    Except Refused Linked := do
  let dep ← raised (_get_dependency s dep_id system_id tenant_id)
  .ok { s with dependencies := s.dependencies.delete fun d => d.id = dep.id }

def written (dependency_type : DependencyType) (direction : DependencyDirection)
    (source : DependencySource) (label : Option String) : Table.Edit SystemDependency.id where
  apply d :=
    { d with
      dependency_type := dependency_type
      direction := direction
      source := source
      label := label }
  key_apply _ := rfl

/-- Only the label may be null. -/
def update_system_dependency (s : Linked) (dep_id system_id : ℕ) (data : SystemDependencyUpdate)
    (tenant_id : ℕ) : Except Refused Linked := do
  let dep ← raised (_get_dependency s dep_id system_id tenant_id)
  let dependency_type ← raised (get_or_raise (data.dependency_type.get dep.dependency_type)
    .IntegrityError)
  let direction ← raised (get_or_raise (data.direction.get dep.direction) .IntegrityError)
  let source ← raised (get_or_raise (data.source.get dep.source) .IntegrityError)
  let written := written dependency_type direction source (data.label.set_nullable dep.label)
  .ok { s with dependencies := s.dependencies.update (fun d => d.id = dep.id) written }

/-! ## The operations -/

/-- What an update of an environment leaves. -/
structure EnvironmentChange extends Table.Edit Environment.id where
  keeps : ∀ e, (apply e).tenant_id = e.tenant_id

/-- Of the creation and the update of an environment it does not matter what they check: any row
and any change that keeps the tenant will do. -/
inductive Change
  | contents (operation : Operation)
  | create_system (data : SystemCreate) (tenant_id : ℕ)
  | update_system (system_id : ℕ) (data : SystemUpdate) (tenant_id : ℕ)
  | create_system_dependency (system_id : ℕ) (data : SystemDependencyCreate) (tenant_id : ℕ)
  | update_system_dependency (dep_id system_id : ℕ) (data : SystemDependencyUpdate)
      (tenant_id : ℕ)
  | delete_system_dependency (dep_id system_id tenant_id : ℕ)
  | create_environment (new : Table.New Environment.id)
  | update_environment (env_id : ℕ) (change : EnvironmentChange)

def Linked.within (s : Linked) (r : Except Refused Db) : Except Refused Linked :=
  r.map fun db => { s with contents := db }

def Linked.in_environments (s : Linked) (environments : Table Environment Environment.id) :
    Linked :=
  { s with contents := { s.contents with environments := environments } }

def Linked.handle (s : Linked) : Change → Except Refused Linked
  | .contents operation => s.within (Contents.handle s.contents operation)
  | .create_system data tenant_id => create_system s data tenant_id
  | .update_system system_id data tenant_id => update_system s system_id data tenant_id
  | .create_system_dependency system_id data tenant_id =>
    create_system_dependency s system_id data tenant_id
  | .update_system_dependency dep_id system_id data tenant_id =>
    update_system_dependency s dep_id system_id data tenant_id
  | .delete_system_dependency dep_id system_id tenant_id =>
    delete_system_dependency s dep_id system_id tenant_id
  | .create_environment new =>
    .ok (s.in_environments (s.contents.environments.insert new))
  | .update_environment env_id change =>
    .ok (s.in_environments (s.contents.environments.update (fun e => e.id = env_id) change.toEdit))

def Linked.step (s : Linked) (change : Change) : Linked := commit_or_rollback s (s.handle change)

/-! ## Closing the gaps -/

/-- `add_system_to_environment`. -/
def Linked.add (s : Linked) (env_id system_id tenant_id : ℕ) : Except Refused Linked :=
  s.within (add_system_to_environment s.contents env_id system_id tenant_id)

/-- Every system that is reported is added. -/
def add_missing (env_id tenant_id : ℕ) (s : Linked) : Except Refused Linked := do
  let report ← raised (list_systems_in_environment s env_id tenant_id)
  report.missing_systems.foldlM (fun s m => s.add env_id m.id tenant_id) s

/-- What `verify_environment` counts as missing. -/
def EnvironmentVerify.missing (result : EnvironmentVerify) : List SystemVerifyItem :=
  (result.systems.flatMap SystemVerify.dependencies).filter fun i => i.status = .missing

/-- Whatever is reported as missing is accepted, and adding it again and again comes to an end. -/
structure Closable (s : Linked) (env_id tenant_id : ℕ) : Prop where
  listed : ∀ report, list_systems_in_environment s env_id tenant_id = .ok report →
    ∀ m ∈ report.missing_systems, ∃ s', s.add env_id m.id tenant_id = .ok s'
  counted : ∀ result, verify_environment s env_id tenant_id = .ok result →
    ∀ i ∈ result.missing, ∃ s', s.add env_id i.to_system_id tenant_id = .ok s'
  ends : ∀ report, list_systems_in_environment s env_id tenant_id = .ok report →
    ∃ n s' report', Rounds.rounds (add_missing env_id tenant_id) n s = .ok s' ∧
      list_systems_in_environment s' env_id tenant_id = .ok report' ∧
      report'.missing_systems = []

/-! ## The invariant -/

/-- Rows stay and keep their tenant, and a new assignment is of the environment's tenant. -/
structure Carries (db db' : Db) : Prop where
  systems : ∀ y ∈ db.systems, ∃ y' ∈ db'.systems, y'.id = y.id ∧ y'.tenant_id = y.tenant_id
  environments : ∀ e ∈ db.environments,
    ∃ e' ∈ db'.environments, e'.id = e.id ∧ e'.tenant_id = e.tenant_id
  assigned : ∀ a ∈ db'.environment_systems, a ∈ db.environment_systems ∨
    ∃ e ∈ db.environments, e.id = a.environment_id ∧ e.tenant_id = a.tenant_id

structure Linked.Sound (s : Linked) : Prop where
  contents : Contents.Sound s.contents
  assigned_environment : ∀ a ∈ s.contents.environment_systems,
    ∃ e ∈ s.contents.environments, e.id = a.environment_id ∧ e.tenant_id = a.tenant_id
  target_system : ∀ d ∈ s.dependencies,
    ∃ y ∈ s.contents.systems, y.id = d.to_system_id ∧ y.tenant_id = d.tenant_id

section

variable {db db' : Db} {s s' : Linked}

theorem carries_of_same (hsame : SameContents db db')
    (hsystems : ∀ y ∈ db.systems, ∃ y' ∈ db'.systems, y'.id = y.id ∧ y'.tenant_id = y.tenant_id) :
    Carries db db' where
  systems := hsystems
  environments e he := ⟨e, by rwa [hsame.environments], rfl, rfl⟩
  assigned a ha := Or.inl (by rwa [hsame.environment_systems] at ha)

theorem handle_carries {operation : Operation} (h : handle db operation = .ok db') :
    Carries db db' := by
  cases operation with
  | create_subsystem system_id data tenant_id =>
    obtain ⟨-, hsame, hsystems, -⟩ := create_subsystem_ok h
    exact carries_of_same hsame fun y hy => ⟨y, by rwa [hsystems], rfl, rfl⟩
  | delete_subsystem subsystem_id system_id tenant_id now =>
    obtain ⟨_, -, -, -, hsame, hsystems, -⟩ := delete_subsystem_ok h
    exact carries_of_same hsame fun y hy => ⟨y, by rwa [hsystems], rfl, rfl⟩
  | delete_system system_id tenant_id now =>
    obtain ⟨hsame, hsystems, -⟩ := delete_system_ok h
    exact carries_of_same hsame hsystems
  | apply system_id tenant_id source edge_source declared =>
    obtain ⟨-, hsame, hsystems, -⟩ := apply_ok h
    exact carries_of_same hsame fun y hy => ⟨y, by rwa [hsystems], rfl, rfl⟩
  | add_system_to_environment env_id system_id tenant_id =>
    obtain ⟨⟨e, he, hid, htenant⟩, -, -, henvs, hsystems, -, hass, -⟩ := add_system_ok h
    refine ⟨fun y hy => ⟨y, by rwa [hsystems], rfl, rfl⟩,
      fun e he => ⟨e, by rwa [henvs], rfl, rfl⟩, fun a ha => ?_⟩
    rw [hass, Table.mem_insert] at ha
    rcases ha with ha | rfl
    · exact Or.inl ha
    · exact Or.inr ⟨e, he, hid, htenant⟩
  | remove_system_from_environment env_id system_id tenant_id =>
    obtain ⟨_, -, -, -, -, henvs, hsystems, -, hass, -⟩ := remove_system_ok h
    refine ⟨fun y hy => ⟨y, by rwa [hsystems], rfl, rfl⟩,
      fun e he => ⟨e, by rwa [henvs], rfl, rfl⟩, fun a ha => Or.inl ?_⟩
    rw [hass] at ha
    exact (Table.mem_delete.1 ha).1
  | delete_environment env_id tenant_id now =>
    obtain ⟨-, henvs, hsystems, -, hass, -⟩ := delete_environment_ok h
    exact ⟨fun y hy => ⟨y, by rwa [hsystems], rfl, rfl⟩, henvs, fun a ha => Or.inl (hass ▸ ha)⟩

/-- The keys of the contents are in order where systems and environments only changed or came. -/
theorem sound_of_kept (hs : Sound db) (hcarries : Carries db db')
    (hcatalogue : db'.catalogue = db.catalogue)
    (hassigned : db'.environment_systems = db.environment_systems)
    (hrows : db'.environment_subsystems = db.environment_subsystems) : Sound db' where
  subsystem_system r hr := by
    obtain ⟨y, hy, hid, htenant⟩ := hs.subsystem_system r (hcatalogue ▸ hr)
    obtain ⟨y', hy', hid', htenant'⟩ := hcarries.systems y hy
    exact ⟨y', hy', hid'.trans hid, htenant'.trans htenant⟩
  assigned_system a ha := by
    obtain ⟨y, hy, hid, htenant⟩ := hs.assigned_system a (hassigned ▸ ha)
    obtain ⟨y', hy', hid', htenant'⟩ := hcarries.systems y hy
    exact ⟨y', hy', hid'.trans hid, htenant'.trans htenant⟩
  uq_env_system := by
    rw [hassigned]
    exact hs.uq_env_system
  row_subsystem := by
    rw [hcatalogue, hrows]
    exact hs.row_subsystem
  row_environment r hr := by
    obtain ⟨e, he, hid, htenant⟩ := hs.row_environment r (hrows ▸ hr)
    obtain ⟨e', he', hid', htenant'⟩ := hcarries.environments e he
    exact ⟨e', he', hid'.trans hid, htenant'.trans htenant⟩

/-- Where the contents carry on and new dependencies name a system of their tenant. -/
theorem Linked.Sound.carry (hs : s.Sound) (hcontents : Contents.Sound s'.contents)
    (hcarries : Carries s.contents s'.contents)
    (hdeps : ∀ d ∈ s'.dependencies, (∃ d₀ ∈ s.dependencies, d₀.to_system_id = d.to_system_id ∧
        d₀.tenant_id = d.tenant_id) ∨
      ∃ y ∈ s.contents.systems, y.id = d.to_system_id ∧ y.tenant_id = d.tenant_id) :
    s'.Sound where
  contents := hcontents
  assigned_environment a ha := by
    have he : ∃ e ∈ s.contents.environments,
        e.id = a.environment_id ∧ e.tenant_id = a.tenant_id := by
      rcases hcarries.assigned a ha with ha | he
      · exact hs.assigned_environment a ha
      · exact he
    obtain ⟨e, he, hid, htenant⟩ := he
    obtain ⟨e', he', hid', htenant'⟩ := hcarries.environments e he
    exact ⟨e', he', hid'.trans hid, htenant'.trans htenant⟩
  target_system d hd := by
    have hy : ∃ y ∈ s.contents.systems, y.id = d.to_system_id ∧ y.tenant_id = d.tenant_id := by
      rcases hdeps d hd with ⟨d₀, hd₀, hto, htenant⟩ | hy
      · rw [← hto, ← htenant]
        exact hs.target_system d₀ hd₀
      · exact hy
    obtain ⟨y, hy, hid, htenant⟩ := hy
    obtain ⟨y', hy', hid', htenant'⟩ := hcarries.systems y hy
    exact ⟨y', hy', hid'.trans hid, htenant'.trans htenant⟩

theorem Carries.refl (db : Db) : Carries db db :=
  ⟨fun y hy => ⟨y, hy, rfl, rfl⟩, fun e he => ⟨e, he, rfl, rfl⟩, fun _ ha => Or.inl ha⟩

end

/-! ## The operations -/

section

variable {s s' : Linked} {system_id tenant_id dep_id : ℕ}

theorem within_ok {r : Except Refused Db} :
    s.within r = .ok s' ↔ ∃ db, r = .ok db ∧ { s with contents := db } = s' := map_eq_ok

theorem create_system_ok {data : SystemCreate} (h : create_system s data tenant_id = .ok s') :
    s' = { s with contents := { s.contents with
      systems := s.contents.systems.insert (data.new tenant_id) } } := by
  simp only [create_system, bind_eq_ok, raised_eq_ok, Except.ok.injEq] at h
  obtain ⟨_, -, _, -, _, -, rfl⟩ := h
  rfl

theorem update_system_ok {data : SystemUpdate}
    (h : update_system s system_id data tenant_id = .ok s') :
    ∃ name id, s' = { s with contents := { s.contents with
      systems := s.contents.systems.update (fun y => y.id = id) (renamed name) } } := by
  simp only [update_system, bind_eq_ok, raised_eq_ok, Except.ok.injEq] at h
  obtain ⟨system, -, _, -, _, -, name, -, rfl⟩ := h
  exact ⟨name, system.id, rfl⟩

theorem create_dependency_ok {data : SystemDependencyCreate}
    (h : create_system_dependency s system_id data tenant_id = .ok s') :
    (∃ y ∈ s.contents.systems, y.id = data.to_system_id ∧ y.tenant_id = tenant_id ∧
        y.deleted_at = none) ∧
      s' = { s with dependencies := s.dependencies.insert (data.new system_id tenant_id) } := by
  simp only [create_system_dependency, bind_eq_ok, raised_eq_ok, get_or_raise_eq_ok,
    Except.ok.injEq] at h
  obtain ⟨_, -, _, -, y, hy, _, -, _, -, rfl⟩ := h
  obtain ⟨hmem, hp⟩ := Table.select_one_some hy
  exact ⟨⟨y, hmem, of_decide_eq_true hp⟩, rfl⟩

theorem delete_dependency_ok (h : delete_system_dependency s dep_id system_id tenant_id = .ok s') :
    ∃ id, s' = { s with dependencies := s.dependencies.delete fun d => d.id = id } := by
  simp only [delete_system_dependency, bind_eq_ok, raised_eq_ok, Except.ok.injEq] at h
  obtain ⟨dep, -, rfl⟩ := h
  exact ⟨dep.id, rfl⟩

theorem update_dependency_ok {data : SystemDependencyUpdate}
    (h : update_system_dependency s dep_id system_id data tenant_id = .ok s') :
    ∃ id kind direction source label, s' = { s with
      dependencies := s.dependencies.update (fun d => d.id = id)
        (written kind direction source label) } := by
  simp only [update_system_dependency, bind_eq_ok, raised_eq_ok, Except.ok.injEq] at h
  obtain ⟨dep, -, kind, -, direction, -, source, -, rfl⟩ := h
  exact ⟨dep.id, kind, direction, source, _, rfl⟩

/-- The dependencies after an operation: those that were there, or one on a live system. -/
theorem dependencies_handle {change : Change} (h : s.handle change = .ok s') :
    ∀ d ∈ s'.dependencies, (∃ d₀ ∈ s.dependencies, d₀.to_system_id = d.to_system_id ∧
        d₀.tenant_id = d.tenant_id) ∨
      ∃ y ∈ s.contents.systems, y.id = d.to_system_id ∧ y.tenant_id = d.tenant_id ∧
        y.deleted_at = none := by
  intro d hd
  cases change with
  | contents operation =>
    obtain ⟨db, -, rfl⟩ := within_ok.1 h
    exact Or.inl ⟨d, hd, rfl, rfl⟩
  | create_system data tenant_id =>
    obtain rfl := create_system_ok h
    exact Or.inl ⟨d, hd, rfl, rfl⟩
  | update_system system_id data tenant_id =>
    obtain ⟨_, _, rfl⟩ := update_system_ok h
    exact Or.inl ⟨d, hd, rfl, rfl⟩
  | create_system_dependency system_id data tenant_id =>
    obtain ⟨hy, rfl⟩ := create_dependency_ok h
    rcases Table.mem_insert.1 hd with hd | rfl
    · exact Or.inl ⟨d, hd, rfl, rfl⟩
    · exact Or.inr hy
  | update_system_dependency dep_id system_id data tenant_id =>
    obtain ⟨_, _, _, _, _, rfl⟩ := update_dependency_ok h
    obtain ⟨d₀, hd₀, rfl⟩ := Table.mem_update.1 hd
    refine Or.inl ⟨d₀, hd₀, ?_⟩
    split_ifs
    · exact ⟨rfl, rfl⟩
    · exact ⟨rfl, rfl⟩
  | delete_system_dependency dep_id system_id tenant_id =>
    obtain ⟨_, rfl⟩ := delete_dependency_ok h
    exact Or.inl ⟨d, (Table.mem_delete.1 hd).1, rfl, rfl⟩
  | create_environment new =>
    cases h
    exact Or.inl ⟨d, hd, rfl, rfl⟩
  | update_environment env_id change =>
    cases h
    exact Or.inl ⟨d, hd, rfl, rfl⟩

theorem carries_linked {change : Change} (h : s.handle change = .ok s') :
    Carries s.contents s'.contents := by
  cases change with
  | contents operation =>
    obtain ⟨db, hdb, rfl⟩ := within_ok.1 h
    exact handle_carries hdb
  | create_system data tenant_id =>
    obtain rfl := create_system_ok h
    exact { Carries.refl s.contents with
      systems := fun y hy => ⟨y, Table.mem_insert.2 (Or.inl hy), rfl, rfl⟩ }
  | update_system system_id data tenant_id =>
    obtain ⟨_, _, rfl⟩ := update_system_ok h
    refine { Carries.refl s.contents with
      systems := fun y hy => ⟨_, Table.mem_update.2 ⟨y, hy, rfl⟩, ?_⟩ }
    split_ifs
    · exact ⟨rfl, rfl⟩
    · exact ⟨rfl, rfl⟩
  | create_system_dependency system_id data tenant_id =>
    obtain ⟨-, rfl⟩ := create_dependency_ok h
    exact Carries.refl s.contents
  | update_system_dependency dep_id system_id data tenant_id =>
    obtain ⟨_, _, _, _, _, rfl⟩ := update_dependency_ok h
    exact Carries.refl s.contents
  | delete_system_dependency dep_id system_id tenant_id =>
    obtain ⟨_, rfl⟩ := delete_dependency_ok h
    exact Carries.refl s.contents
  | create_environment new =>
    cases h
    exact { Carries.refl s.contents with
      environments := fun e he => ⟨e, Table.mem_insert.2 (Or.inl he), rfl, rfl⟩ }
  | update_environment env_id change =>
    cases h
    refine { Carries.refl s.contents with
      environments := fun e he => ⟨_, Table.mem_update.2 ⟨e, he, rfl⟩, ?_⟩ }
    split_ifs
    · exact ⟨change.key_apply e, change.keeps e⟩
    · exact ⟨rfl, rfl⟩

theorem contents_sound {change : Change} (hs : Sound s.contents) (h : s.handle change = .ok s') :
    Sound s'.contents := by
  have hcarries := carries_linked h
  cases change with
  | contents operation =>
    obtain ⟨db, hdb, rfl⟩ := within_ok.1 h
    exact handle_sound hs hdb
  | create_system data tenant_id =>
    obtain rfl := create_system_ok h
    exact sound_of_kept hs hcarries rfl rfl rfl
  | update_system system_id data tenant_id =>
    obtain ⟨_, _, rfl⟩ := update_system_ok h
    exact sound_of_kept hs hcarries rfl rfl rfl
  | create_system_dependency system_id data tenant_id =>
    obtain ⟨-, rfl⟩ := create_dependency_ok h
    exact hs
  | update_system_dependency dep_id system_id data tenant_id =>
    obtain ⟨_, _, _, _, _, rfl⟩ := update_dependency_ok h
    exact hs
  | delete_system_dependency dep_id system_id tenant_id =>
    obtain ⟨_, rfl⟩ := delete_dependency_ok h
    exact hs
  | create_environment new =>
    cases h
    exact sound_of_kept hs hcarries rfl rfl rfl
  | update_environment env_id change =>
    cases h
    exact sound_of_kept hs hcarries rfl rfl rfl

theorem linked_handle_sound {change : Change} (hs : s.Sound) (h : s.handle change = .ok s') :
    s'.Sound := by
  refine hs.carry (contents_sound hs.contents h) (carries_linked h) fun d hd => ?_
  rcases dependencies_handle h d hd with hold | ⟨y, hy, hid, htenant, -⟩
  · exact Or.inl hold
  · exact Or.inr ⟨y, hy, hid, htenant⟩

theorem linked_step_sound (s : Linked) (change : Change) (hs : s.Sound) : (s.step change).Sound :=
  commit_or_rollback_keeps hs fun _ h => linked_handle_sound hs h

theorem linked_opened_sound (environments : Table Environment Environment.id)
    (systems : Table System System.id) (custom_fields : List Bookings.CustomFieldDefinition) :
    (Linked.opened environments systems custom_fields).Sound where
  contents := sound_opened environments systems custom_fields
  assigned_environment a ha := absurd ha (Table.not_mem_empty a)
  target_system d hd := absurd hd (Table.not_mem_empty d)

end

end EnvMgr.Contents
