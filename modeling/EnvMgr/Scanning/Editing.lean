/-
What users do to the edges of the catalogue, and a scan that follows.

Users edit an edge and document endpoints on it (`dependency_service`). A scan
deletes the edges its source owns and writes the declared ones anew, so what
users put on an edge of the source does not outlive the next scan. What they put
on any other edge does.
-/
import EnvMgr.Lib.Runs
import EnvMgr.Scanning.RoundTrip

namespace EnvMgr.Scanning

/-! ## Edits -/

structure ComponentDependencyUpdate where
  dependency_type : Sent DependencyType
  protocol : Sent String
  port : Sent ℤ
  source : Sent DependencySource
  direction : Sent DependencyDirection
  label : Sent String
  deriving DecidableEq

structure ComponentEndpointCreate where
  http_method : Option HttpMethod
  path : String
  description : Option String
  deriving DecidableEq

structure ComponentEndpointUpdate where
  http_method : Sent HttpMethod
  path : Sent String
  description : Sent String
  deriving DecidableEq

/-- A change of an edge that leaves its ends alone. -/
structure ComponentDependency.Edit extends Table.Edit ComponentDependency.id where
  keeps : ∀ d, (apply d).from_subsystem_id = d.from_subsystem_id ∧
    (apply d).to_subsystem_id = d.to_subsystem_id ∧ (apply d).tenant_id = d.tenant_id

theorem ComponentDependency.Edit.clashes_iff (f : ComponentDependency.Edit)
    (a b : ComponentDependency) : a.Clashes (f.apply b) ↔ a.Clashes b := by
  obtain ⟨hfrom, hto, htenant⟩ := f.keeps b
  rw [Clashes, Clashes, hfrom, hto, htenant]

/-- The attributes of one loaded edge are assigned to and flushed. -/
def Db.update_dependency (db : Db) (dep_id : ℕ) (f : ComponentDependency.Edit) : Db where
  subsystems := db.subsystems
  dependencies := db.dependencies.update (fun d => d.id = dep_id) f.toEdit
  endpoints := db.endpoints
  uq_subsystem_system_name := db.uq_subsystem_system_name
  uq_component_dep := by
    intro a ha b hb hab
    have hclash : ∀ c d : ComponentDependency,
        c.Clashes (if (decide (d.id = dep_id)) = true then f.apply d else d) ↔ c.Clashes d := by
      intro c d
      split
      · exact f.clashes_iff c d
      · exact Iff.rfl
    obtain ⟨a₀, ha₀, rfl⟩ := Table.mem_update.1 ha
    obtain ⟨b₀, hb₀, rfl⟩ := Table.mem_update.1 hb
    have h₀ : a₀.Clashes b₀ := ((hclash b₀ a₀).1 ((hclash _ b₀).1 hab).symm).symm
    rw [db.uq_component_dep a₀ ha₀ b₀ hb₀ h₀]
  fk_from := by
    intro d hd
    obtain ⟨d₀, hd₀, rfl⟩ := Table.mem_update.1 hd
    split
    · rw [(f.keeps d₀).1]
      exact db.fk_from d₀ hd₀
    · exact db.fk_from d₀ hd₀
  fk_to := by
    intro d hd
    obtain ⟨d₀, hd₀, rfl⟩ := Table.mem_update.1 hd
    split
    · rw [(f.keeps d₀).2.1]
      exact db.fk_to d₀ hd₀
    · exact db.fk_to d₀ hd₀
  fk_dependency := by
    intro e he
    obtain ⟨d, hd, hid⟩ := db.fk_dependency e he
    refine ⟨_, Table.mem_update.2 ⟨d, hd, rfl⟩, ?_⟩
    split
    · exact (f.key_apply d).trans hid
    · exact hid

def Db.add_endpoint (db : Db) (new : Table.New ComponentEndpoint.id)
    (h : ∀ n, ∃ d ∈ db.dependencies, d.id = (new.row n).dependency_id) : Db :=
  { db with
    endpoints := db.endpoints.insert new
    fk_dependency := (Table.forall_insert_iff db.fk_dependency).2 (h _) }

/-- A change of an endpoint that leaves it on its edge. -/
structure ComponentEndpoint.Edit extends Table.Edit ComponentEndpoint.id where
  keeps : ∀ e, (apply e).dependency_id = e.dependency_id

def Db.update_endpoint (db : Db) (endpoint_id : ℕ) (f : ComponentEndpoint.Edit) : Db :=
  { db with
    endpoints := db.endpoints.update (fun e => e.id = endpoint_id) f.toEdit
    fk_dependency := by
      refine (Table.forall_update_iff db.fk_dependency).2 fun e he _ => ?_
      rw [f.keeps e]
      exact db.fk_dependency e he }

def Db.delete_endpoint (db : Db) (endpoint_id : ℕ) : Db :=
  { db with
    endpoints := db.endpoints.delete fun e => e.id = endpoint_id
    fk_dependency := fun e he => db.fk_dependency e (Table.mem_delete.1 he).1 }

section

variable (db : Db) (dep_id subsystem_id tenant_id : ℕ)

/-- The edge `dep_id` of the tenant, with the subsystem at one of its ends. -/
def component_dependency : Option ComponentDependency :=
  db.dependencies.select_one fun d =>
    d.id = dep_id ∧ d.tenant_id = tenant_id ∧
      (d.from_subsystem_id = subsystem_id ∨ d.to_subsystem_id = subsystem_id)

def dependency_not_found : Refused := .raised (http 404 "Component dependency not found")

def endpoint_not_found : Refused := .raised (http 404 "Endpoint not found")

def set_dependency (data : ComponentDependencyUpdate) : ComponentDependency.Edit where
  apply d :=
    { d with
      dependency_type := data.dependency_type.set_required d.dependency_type
      protocol := data.protocol.set_nullable d.protocol
      port := data.port.set_nullable d.port
      source := data.source.set_required d.source
      direction := data.direction.set_required d.direction
      label := data.label.set_nullable d.label }
  key_apply _ := rfl
  keeps _ := ⟨rfl, rfl, rfl⟩

/-- A null sent for a column that has none is the database's to refuse. -/
def update_component_dependency (data : ComponentDependencyUpdate) : Except Refused Db := do
  let dep ← get_or_raise (component_dependency db dep_id subsystem_id tenant_id)
    dependency_not_found
  raise_if (data.dependency_type = .null ∨ data.source = .null ∨ data.direction = .null)
    (.violates .not_null)
  pure (db.update_dependency dep.id (set_dependency data))

def new_endpoint (data : ComponentEndpointCreate) : Table.New ComponentEndpoint.id where
  row id :=
    { id := id
      tenant_id := tenant_id
      dependency_id := dep_id
      http_method := data.http_method
      path := data.path
      description := data.description }
  key_row _ := rfl

theorem component_dependency_some {d : ComponentDependency}
    (h : component_dependency db dep_id subsystem_id tenant_id = some d) :
    d ∈ db.dependencies ∧ d.id = dep_id := by
  obtain ⟨hd, hp⟩ := Table.select_one_some h
  exact ⟨hd, (of_decide_eq_true hp).1⟩

def create_component_endpoint (data : ComponentEndpointCreate) : Except Refused Db :=
  match h : component_dependency db dep_id subsystem_id tenant_id with
  | none => .error dependency_not_found
  | some d => .ok (db.add_endpoint (new_endpoint dep_id tenant_id data) fun _ =>
    ⟨d, component_dependency_some db dep_id subsystem_id tenant_id h⟩)

def component_endpoint (endpoint_id : ℕ) : Option ComponentEndpoint :=
  db.endpoints.select_one fun e =>
    e.id = endpoint_id ∧ e.dependency_id = dep_id ∧ e.tenant_id = tenant_id

def set_endpoint (data : ComponentEndpointUpdate) : ComponentEndpoint.Edit where
  apply e :=
    { e with
      http_method := data.http_method.set_nullable e.http_method
      path := data.path.set_required e.path
      description := data.description.set_nullable e.description }
  key_apply _ := rfl
  keeps _ := rfl

def update_component_endpoint (endpoint_id : ℕ) (data : ComponentEndpointUpdate) :
    Except Refused Db := do
  let _ ← get_or_raise (component_dependency db dep_id subsystem_id tenant_id) dependency_not_found
  let ep ← get_or_raise (component_endpoint db dep_id tenant_id endpoint_id) endpoint_not_found
  raise_if (data.path = .null) (.violates .not_null)
  pure (db.update_endpoint ep.id (set_endpoint data))

def delete_component_endpoint (endpoint_id : ℕ) : Except Refused Db := do
  let _ ← get_or_raise (component_dependency db dep_id subsystem_id tenant_id) dependency_not_found
  let ep ← get_or_raise (component_endpoint db dep_id tenant_id endpoint_id) endpoint_not_found
  pure (db.delete_endpoint ep.id)

end

/-- What users ask for; each of them names the edge by its id and one of its ends. -/
inductive Edit
  | update_component_dependency (dep_id subsystem_id tenant_id : ℕ)
      (data : ComponentDependencyUpdate)
  | create_component_endpoint (dep_id subsystem_id tenant_id : ℕ) (data : ComponentEndpointCreate)
  | update_component_endpoint (dep_id endpoint_id subsystem_id tenant_id : ℕ)
      (data : ComponentEndpointUpdate)
  | delete_component_endpoint (dep_id endpoint_id subsystem_id tenant_id : ℕ)
  deriving DecidableEq

def edit (db : Db) : Edit → Except Refused Db
  | .update_component_dependency dep_id subsystem_id tenant_id data =>
    update_component_dependency db dep_id subsystem_id tenant_id data
  | .create_component_endpoint dep_id subsystem_id tenant_id data =>
    create_component_endpoint db dep_id subsystem_id tenant_id data
  | .update_component_endpoint dep_id endpoint_id subsystem_id tenant_id data =>
    update_component_endpoint db dep_id subsystem_id tenant_id endpoint_id data
  | .delete_component_endpoint dep_id endpoint_id subsystem_id tenant_id =>
    delete_component_endpoint db dep_id subsystem_id tenant_id endpoint_id

def edit_step (db : Db) (e : Edit) : Db := commit_or_rollback db (edit db e)

/-! ## What edits leave alone -/

/-- The same edge, whatever has been written on it. -/
def SameEdge (a b : ComponentDependency) : Prop := b.id = a.id ∧ a.Clashes b

theorem SameEdge.refl (a : ComponentDependency) : SameEdge a a := ⟨rfl, rfl, rfl, rfl⟩

theorem SameEdge.symm {a b : ComponentDependency} (h : SameEdge a b) : SameEdge b a :=
  ⟨h.1.symm, h.2.symm⟩

theorem SameEdge.trans (a b c : ComponentDependency) (h : SameEdge a b) (h' : SameEdge b c) :
    SameEdge a c :=
  ⟨h'.1.trans h.1, h.2.1.trans h'.2.1, h.2.2.1.trans h'.2.2.1, h.2.2.2.trans h'.2.2.2⟩

/-- Edits write neither subsystems nor the ends of an edge, and make and delete no edge. -/
structure Edited (db db' : Db) : Prop where
  subsystems : db'.subsystems = db.subsystems
  kept : Table.Retains SameEdge db.dependencies db'.dependencies
  known : Table.Retains SameEdge db'.dependencies db.dependencies

theorem Edited.refl (db : Db) : Edited db db :=
  ⟨rfl, Table.retains_refl SameEdge.refl _, Table.retains_refl SameEdge.refl _⟩

theorem Edited.trans {db₁ db₂ db₃ : Db} (h : Edited db₁ db₂) (h' : Edited db₂ db₃) :
    Edited db₁ db₃ :=
  ⟨h'.subsystems.trans h.subsystems, h.kept.trans h'.kept SameEdge.trans,
    h'.known.trans h.known SameEdge.trans⟩

theorem edited_update (db : Db) (dep_id : ℕ) (f : ComponentDependency.Edit) :
    Edited db (db.update_dependency dep_id f) := by
  have hsame : ∀ d, SameEdge d (f.apply d) := by
    intro d
    obtain ⟨hfrom, hto, htenant⟩ := f.keeps d
    exact ⟨f.key_apply d, hfrom.symm, hto.symm, htenant.symm⟩
  refine ⟨rfl, Table.retains_update SameEdge.refl _ _ hsame, ?_⟩
  intro d hd
  rcases Table.mem_update_cases hd with ⟨d₀, hd₀, -, rfl⟩ | ⟨hd, -⟩
  · exact ⟨d₀, hd₀, (hsame d₀).symm⟩
  · exact ⟨d, hd, SameEdge.refl d⟩

theorem edited_endpoints {db db' : Db} (hsubs : db'.subsystems = db.subsystems)
    (hdeps : db'.dependencies = db.dependencies) : Edited db db' := by
  refine ⟨hsubs, ?_, ?_⟩ <;> rw [hdeps] <;> exact Table.retains_refl SameEdge.refl _

theorem edit_edited {db db' : Db} {e : Edit} (h : edit db e = .ok db') : Edited db db' := by
  cases e with
  | update_component_dependency dep_id subsystem_id tenant_id data =>
    simp only [edit, update_component_dependency, bind_eq_ok, pure_eq_ok] at h
    obtain ⟨d, -, -, -, rfl⟩ := h
    exact edited_update db _ _
  | create_component_endpoint dep_id subsystem_id tenant_id data =>
    simp only [edit, create_component_endpoint] at h
    split at h
    · cases h
    · obtain rfl := Except.ok.inj h
      exact edited_endpoints rfl rfl
  | update_component_endpoint dep_id endpoint_id subsystem_id tenant_id data =>
    simp only [edit, update_component_endpoint, bind_eq_ok, pure_eq_ok] at h
    obtain ⟨-, -, ep, -, -, -, rfl⟩ := h
    exact edited_endpoints rfl rfl
  | delete_component_endpoint dep_id endpoint_id subsystem_id tenant_id =>
    simp only [edit, delete_component_endpoint, bind_eq_ok, pure_eq_ok] at h
    obtain ⟨-, -, ep, -, rfl⟩ := h
    exact edited_endpoints rfl rfl

theorem edit_step_edited (db : Db) (e : Edit) : Edited db (edit_step db e) :=
  commit_or_rollback_keeps (Edited.refl db) fun _ h => edit_edited h

/-- **Whatever users do, the edges stay the edges they are.** -/
theorem edits_edited (db : Db) (es : List Edit) : Edited db (Runs.run edit_step db es) :=
  Runs.run_rel Edited.refl Edited.trans edit_step_edited db es

end EnvMgr.Scanning
