/-
Projects and the environments they have agreed to use: `project_service.py`.

A project shows how many environments it has agreements for, and the agreements are listed from
both ends. The count and the lists are three queries over the same tables; an agreement is left
out of all three once it, its environment or its project is deleted. Of these only the deletion of
a project reaches the agreements themselves.
-/
import EnvMgr.Agreements.Service

namespace EnvMgr.Projects

open Agreements (UsageAgreement)
open Deployments (Page fetch_page)
open Runs

variable {n tenant_id project_id : ℕ} {page : Option Page}

/-! ## Tables -/

structure Project where
  id : ℕ
  tenant_id : ℕ
  name : String
  code : Option String
  description : Option String
  team_group_id : Option ℕ
  is_active : Bool
  priority_rank : Option ℕ
  deleted_at : Option DateTime
  deriving DecidableEq

structure UserGroup where
  id : ℕ
  tenant_id : ℕ
  name : String
  deleted_at : Option DateTime
  deriving DecidableEq

structure Db where
  projects : Table Project Project.id
  groups : Table UserGroup UserGroup.id
  environments : Table Environment Environment.id
  agreements : Table UsageAgreement UsageAgreement.id

/-- Environments and groups, and no project yet. -/
def Db.opened (groups : Table UserGroup UserGroup.id)
    (environments : Table Environment Environment.id) : Db :=
  ⟨Table.empty, groups, environments, Table.empty⟩

/-- `str.lower`, and `LOWER` of the database. -/
structure External where
  lower : String → String
  sql_lower : String → String

/-! ## Look-ups -/

def live_project (db : Db) (project_id tenant_id : ℕ) : Option Project :=
  db.projects.select_one fun p =>
    p.id = project_id ∧ p.tenant_id = tenant_id ∧ p.deleted_at = none

def live_environment (db : Db) (environment_id tenant_id : ℕ) : Option Environment :=
  db.environments.select_one fun e =>
    e.id = environment_id ∧ e.tenant_id = tenant_id ∧ e.deleted_at = none

def get_project (db : Db) (project_id tenant_id : ℕ) : Except Raised Project :=
  get_or_raise (live_project db project_id tenant_id) (http 404 "Project not found")

/-! ## Projects and their counts -/

structure ProjectView where
  project : Project
  team_group_name : Option String
  environment_count : ℕ
  deriving DecidableEq

/-- `count(distinct(environment_id))` over the live agreements of the project that join a live
environment. -/
def _environment_count (db : Db) (tenant_id project_id : ℕ) : ℕ :=
  ((db.agreements.select fun a =>
    (live_environment db a.environment_id tenant_id).isSome ∧ a.project_id = project_id ∧
      a.tenant_id = tenant_id ∧ a.deleted_at = none).map
    UsageAgreement.environment_id).dedup.length

/-- The name of an archived team too. -/
def team_group_name (db : Db) (tenant_id : ℕ) (p : Project) : Option String :=
  (db.groups.select_one fun g => some g.id = p.team_group_id ∧ g.tenant_id = tenant_id).map
    UserGroup.name

def _view_query (db : Db) (tenant_id : ℕ) : List ProjectView :=
  (db.projects.select fun p => p.tenant_id = tenant_id ∧ p.deleted_at = none).map fun p =>
    ⟨p, team_group_name db tenant_id p, _environment_count db tenant_id p.id⟩

def get_project_view (db : Db) (project_id tenant_id : ℕ) : Except Raised ProjectView :=
  get_or_raise ((_view_query db tenant_id).find? fun view => view.project.id = project_id)
    (http 404 "Project not found")

/-! ## The agreements from both ends -/

/-- A row of the query: the agreement, and the names of its project and its environment. -/
structure AgreementRow where
  agreement : UsageAgreement
  project_name : String
  environment_name : String
  deriving DecidableEq

def agreement_row (db : Db) (tenant_id : ℕ) (a : UsageAgreement) : Option AgreementRow := do
  let project ← live_project db a.project_id tenant_id
  let environment ← live_environment db a.environment_id tenant_id
  some ⟨a, project.name, environment.name⟩

def _agreement_query (db : Db) (tenant_id : ℕ) : List AgreementRow :=
  (db.agreements.select fun a => a.tenant_id = tenant_id ∧ a.deleted_at = none).filterMap
    (agreement_row db tenant_id)

def list_agreements_for_project (ext : External) (db : Db) (project_id tenant_id : ℕ)
    (page : Option Page) : Except Raised (List AgreementRow × ℕ) := do
  let _ ← get_project db project_id tenant_id
  let rows := (_agreement_query db tenant_id).filter fun r => r.agreement.project_id = project_id
  .ok (fetch_page
    (order_by (fun r => toLex (ext.sql_lower r.environment_name, r.agreement.id)) rows) page)

def list_agreements_for_environment (ext : External) (db : Db) (environment_id tenant_id : ℕ)
    (page : Option Page) : Except Raised (List AgreementRow × ℕ) := do
  let _ ← get_or_raise (live_environment db environment_id tenant_id)
    (http 404 "Environment not found")
  let rows := (_agreement_query db tenant_id).filter fun r =>
    r.agreement.environment_id = environment_id
  .ok (fetch_page
    (order_by (fun r => toLex (ext.sql_lower r.project_name, r.agreement.id)) rows) page)

/-! ## Writing projects -/

structure ProjectCreate where
  name : String
  code : Option String
  description : Option String
  team_group_id : Option ℕ
  is_active : Bool
  priority_rank : Option ℕ
  deriving DecidableEq

def ProjectCreate.new (data : ProjectCreate) (tenant_id : ℕ) : Table.New Project.id where
  row id :=
    { id := id
      tenant_id := tenant_id
      name := strip data.name
      code := data.code
      description := data.description
      team_group_id := data.team_group_id
      is_active := data.is_active
      priority_rank := data.priority_rank
      deleted_at := none }
  key_row _ := rfl

/-- Of a new project, whose own row is not excluded. -/
def _assert_name_free (ext : External) (db : Db) (tenant_id : ℕ) (name : String) :
    Except Raised Unit :=
  raise_if
    (∃ p ∈ db.projects, p.tenant_id = tenant_id ∧ p.deleted_at = none ∧
      ext.sql_lower p.name = ext.lower (strip name))
    (http 409 s!"A project named '{strip name}' already exists in this tenant")

def _assert_team_is_ours (db : Db) (tenant_id : ℕ) (team_group_id : Option ℕ) :
    Except Raised Unit :=
  raise_if
    (team_group_id ≠ none ∧ ¬ ∃ g ∈ db.groups,
      some g.id = team_group_id ∧ g.tenant_id = tenant_id ∧ g.deleted_at = none)
    (http 404 "User group not found")

def create_project (ext : External) (db : Db) (data : ProjectCreate) (tenant_id : ℕ) :
    Except Raised Db := do
  _assert_name_free ext db tenant_id data.name
  _assert_team_is_ours db tenant_id data.team_group_id
  let created := { db with projects := db.projects.insert (data.new tenant_id) }
  let _ ← get_project_view created db.projects.next tenant_id
  .ok created

def project_deleted (now : DateTime) : Table.Edit Project.id where
  apply p := { p with deleted_at := some now }
  key_apply _ := rfl

def agreement_deleted (now : DateTime) : Table.Edit UsageAgreement.id where
  apply a := { a with deleted_at := some now }
  key_apply _ := rfl

/-- The agreements of the project are deleted with it. -/
def delete_project (db : Db) (project_id tenant_id : ℕ) (now : DateTime) : Except Raised Db := do
  let project ← get_project db project_id tenant_id
  .ok { db with
    projects := db.projects.update (fun p => p.id = project.id) (project_deleted now)
    agreements := db.agreements.update
      (fun a => a.tenant_id = tenant_id ∧ a.project_id = project_id ∧ a.deleted_at = none)
      (agreement_deleted now) }

/-! ## Writing agreements -/

structure UsageAgreementCreate where
  environment_id : ℕ
  starts_at : Option DateTime
  ends_at : Option DateTime
  deriving DecidableEq

def UsageAgreementCreate.new (data : UsageAgreementCreate) (project_id tenant_id : ℕ) :
    Table.New UsageAgreement.id where
  row id :=
    { id := id
      tenant_id := tenant_id
      project_id := project_id
      environment_id := data.environment_id
      starts_at := data.starts_at
      ends_at := data.ends_at
      deleted_at := none }
  key_row _ := rfl

/-- The window ends before it starts. -/
def UsageAgreementCreate.reversed (data : UsageAgreementCreate) : Prop :=
  ∃ starts_at ∈ data.starts_at, ∃ ends_at ∈ data.ends_at, ends_at < starts_at

instance (data : UsageAgreementCreate) : Decidable data.reversed :=
  inferInstanceAs (Decidable (∃ starts_at ∈ data.starts_at, ∃ ends_at ∈ data.ends_at, _))

/-- A bound that is not given is compared with `IS NULL`. -/
def create_agreement (db : Db) (project_id : ℕ) (data : UsageAgreementCreate) (tenant_id : ℕ) :
    Except Raised Db := do
  let _ ← get_project db project_id tenant_id
  raise_if data.reversed (http 422 "ends_at must not be earlier than starts_at")
  let _ ← get_or_raise (live_environment db data.environment_id tenant_id)
    (http 404 "Environment not found")
  raise_if
    (∃ a ∈ db.agreements, a.tenant_id = tenant_id ∧ a.project_id = project_id ∧
      a.environment_id = data.environment_id ∧ a.starts_at = data.starts_at ∧
      a.ends_at = data.ends_at ∧ a.deleted_at = none)
    (http 409 ("This project already has an agreement for that environment over " ++
      "exactly that window"))
  .ok { db with agreements := db.agreements.insert (data.new project_id tenant_id) }

def delete_agreement (db : Db) (project_id agreement_id tenant_id : ℕ) (now : DateTime) :
    Except Raised Db := do
  let _ ← get_project db project_id tenant_id
  let agreement ← get_or_raise
    (db.agreements.select_one fun a =>
      a.id = agreement_id ∧ a.project_id = project_id ∧ a.tenant_id = tenant_id ∧
        a.deleted_at = none)
    (http 404 "Usage agreement not found")
  .ok { db with
    agreements := db.agreements.update (fun a => a.id = agreement.id) (agreement_deleted now) }

/-! ## Requests -/

/-- The row that the deletion of an environment leaves. -/
def deleted_environment (now : DateTime) (e : Environment) : Environment :=
  { e with deleted_at := some now }

theorem deleted_environment_id (now : DateTime) (e : Environment) :
    (deleted_environment now e).id = e.id := rfl

/-- `environment_service.delete_environment`, of which no project sees more than the row. -/
def delete_environment (db : Db) (env_id tenant_id : ℕ) (now : DateTime) : Except Raised Db := do
  let env ← get_or_raise (live_environment db env_id tenant_id) (http 404 "Environment not found")
  .ok { db with
    environments := db.environments.update (fun e => e.id = env.id)
      ⟨deleted_environment now, deleted_environment_id now⟩ }

/-- Of the creation of an environment it does not matter what it checks: any row will do. -/
inductive Request
  | create_project (data : ProjectCreate) (tenant_id : ℕ)
  | delete_project (project_id tenant_id : ℕ) (now : DateTime)
  | create_agreement (project_id : ℕ) (data : UsageAgreementCreate) (tenant_id : ℕ)
  | delete_agreement (project_id agreement_id tenant_id : ℕ) (now : DateTime)
  | create_environment (new : Table.New Environment.id)
  | delete_environment (env_id tenant_id : ℕ) (now : DateTime)

def handle (ext : External) (db : Db) : Request → Except Raised Db
  | .create_project data tenant_id => create_project ext db data tenant_id
  | .delete_project project_id tenant_id now => delete_project db project_id tenant_id now
  | .create_agreement project_id data tenant_id => create_agreement db project_id data tenant_id
  | .delete_agreement project_id agreement_id tenant_id now =>
    delete_agreement db project_id agreement_id tenant_id now
  | .create_environment new => .ok { db with environments := db.environments.insert new }
  | .delete_environment env_id tenant_id now => delete_environment db env_id tenant_id now

def step (ext : External) (db : Db) (request : Request) : Db :=
  commit_or_rollback db (handle ext db request)

variable {ext : External} {db : Db}

/-! ## The rows of the lists -/

theorem live_project_iff {p : Project} :
    live_project db project_id tenant_id = some p ↔
      p ∈ db.projects ∧ p.id = project_id ∧ p.tenant_id = tenant_id ∧ p.deleted_at = none :=
  Table.select_one_key_iff fun _ h => h.1

theorem get_project_eq_ok {p : Project} :
    get_project db project_id tenant_id = .ok p ↔
      p ∈ db.projects ∧ p.id = project_id ∧ p.tenant_id = tenant_id ∧ p.deleted_at = none := by
  rw [get_project, get_or_raise_eq_ok, live_project_iff]

/-- A row is that of a live agreement whose project and environment are both live. -/
theorem agreement_row_iff {a : UsageAgreement} {r : AgreementRow} :
    agreement_row db tenant_id a = some r ↔
      ∃ p e, live_project db a.project_id tenant_id = some p ∧
        live_environment db a.environment_id tenant_id = some e ∧ r = ⟨a, p.name, e.name⟩ := by
  simp only [agreement_row, Option.bind_eq_bind, Option.bind_eq_some_iff, Option.some.injEq,
    eq_comm (a := r), exists_and_left]

theorem mem_agreement_query {r : AgreementRow} :
    r ∈ _agreement_query db tenant_id ↔
      r.agreement ∈ db.agreements ∧ r.agreement.tenant_id = tenant_id ∧
        r.agreement.deleted_at = none ∧ agreement_row db tenant_id r.agreement = some r := by
  rw [_agreement_query, List.mem_filterMap]
  constructor
  · rintro ⟨a, ha, hrow⟩
    obtain ⟨p, e, -, -, hr⟩ := agreement_row_iff.1 hrow
    have hagreement : r.agreement = a := by rw [hr]
    rw [Table.mem_select, decide_eq_true_eq] at ha
    rw [hagreement]
    exact ⟨ha.1, ha.2.1, ha.2.2, hrow⟩
  · rintro ⟨ha, htenant, hlive, hrow⟩
    exact ⟨r.agreement, Table.mem_select.2 ⟨ha, decide_eq_true ⟨htenant, hlive⟩⟩, hrow⟩

/-- A page has only rows of the whole list. -/
theorem mem_of_mem_page {α : Type} {rows : List α} {r : α} (h : r ∈ (fetch_page rows page).1) :
    r ∈ rows := by
  cases page with
  | none => exact h
  | some page => exact List.mem_of_mem_drop (List.mem_of_mem_take h)

/-- Both lists: the rows of the query that name the row that was looked up, in some order. -/
theorem listed {α κ : Type} [LinearOrder κ] {found : Except Raised α} {key : AgreementRow → κ}
    {rows listed : List AgreementRow}
    (h : (found >>= fun _ => .ok (fetch_page (order_by key rows) page)) = .ok (listed, n)) :
    ∀ r ∈ listed, r ∈ rows := by
  intro r hr
  obtain ⟨-, -, hpage⟩ := bind_eq_ok.1 h
  have hrows : (fetch_page (order_by key rows) page).1 = listed :=
    congrArg Prod.fst (Except.ok.inj hpage)
  rw [← hrows] at hr
  exact mem_order_by.1 (mem_of_mem_page hr)

theorem listed_for_project {rows : List AgreementRow}
    (h : list_agreements_for_project ext db project_id tenant_id page = .ok (rows, n)) :
    ∀ r ∈ rows, r ∈ _agreement_query db tenant_id ∧ r.agreement.project_id = project_id := by
  intro r hr
  have hmem := listed h r hr
  rwa [List.mem_filter, decide_eq_true_eq] at hmem

theorem listed_for_environment {environment_id : ℕ} {rows : List AgreementRow}
    (h : list_agreements_for_environment ext db environment_id tenant_id page = .ok (rows, n)) :
    ∀ r ∈ rows, r ∈ _agreement_query db tenant_id ∧
      r.agreement.environment_id = environment_id := by
  intro r hr
  have hmem := listed h r hr
  rwa [List.mem_filter, decide_eq_true_eq] at hmem

/-- The whole list for a project that is found. -/
theorem list_for_project (ext : External) {p : Project}
    (h : get_project db project_id tenant_id = .ok p) :
    ∃ rows n, list_agreements_for_project ext db project_id tenant_id none = .ok (rows, n) ∧
      ∀ r, r ∈ rows ↔ r ∈ _agreement_query db tenant_id ∧ r.agreement.project_id = project_id := by
  rw [list_agreements_for_project, h]
  exact ⟨_, _, rfl, fun r => by rw [mem_order_by, List.mem_filter, decide_eq_true_eq]⟩

theorem list_for_environment (ext : External) {environment_id : ℕ} {e : Environment}
    (h : live_environment db environment_id tenant_id = some e) :
    ∃ rows n,
      list_agreements_for_environment ext db environment_id tenant_id none = .ok (rows, n) ∧
      ∀ r, r ∈ rows ↔
        r ∈ _agreement_query db tenant_id ∧ r.agreement.environment_id = environment_id := by
  rw [list_agreements_for_environment, h]
  exact ⟨_, _, rfl, fun r => by rw [mem_order_by, List.mem_filter, decide_eq_true_eq]⟩

/-! ## One count and two lists -/

/-- A row that the query has is in the whole list of its project and of its environment. -/
theorem in_both_lists {r : AgreementRow} (h : r ∈ _agreement_query db tenant_id) :
    (∃ rows n, list_agreements_for_project ext db r.agreement.project_id tenant_id none =
        .ok (rows, n) ∧ r ∈ rows) ∧
      ∃ rows n, list_agreements_for_environment ext db r.agreement.environment_id tenant_id none =
        .ok (rows, n) ∧ r ∈ rows := by
  obtain ⟨p, e, hp, he, -⟩ := agreement_row_iff.1 (mem_agreement_query.1 h).2.2.2
  have hfound : get_project db r.agreement.project_id tenant_id = .ok p := by
    rw [get_project, hp]
    rfl
  obtain ⟨rows, n, hlist, hrows⟩ := list_for_project ext hfound
  obtain ⟨rows', n', hlist', hrows'⟩ := list_for_environment ext he
  exact ⟨⟨rows, n, hlist, (hrows r).2 ⟨h, rfl⟩⟩, ⟨rows', n', hlist', (hrows' r).2 ⟨h, rfl⟩⟩⟩

/-- Lists with the same members have as many different ones. -/
theorem dedup_length_congr {α : Type} [DecidableEq α] {xs ys : List α}
    (h : ∀ x, x ∈ xs ↔ x ∈ ys) : xs.dedup.length = ys.dedup.length := by
  have hperm : xs.dedup.Perm ys.dedup := by
    refine (List.perm_ext_iff_of_nodup xs.nodup_dedup ys.nodup_dedup).2 fun x => ?_
    rw [List.mem_dedup, List.mem_dedup, h]
  exact hperm.length_eq

/-- **The count is that of the listed environments**, each counted once. -/
theorem environment_count_eq {p : Project} (h : live_project db project_id tenant_id = some p)
    {rows : List AgreementRow} (hrows : ∀ r, r ∈ rows ↔
      r ∈ _agreement_query db tenant_id ∧ r.agreement.project_id = project_id) :
    _environment_count db tenant_id project_id =
      (rows.map fun r => r.agreement.environment_id).dedup.length := by
  refine dedup_length_congr fun id => ?_
  rw [List.mem_map, List.mem_map]
  constructor
  · rintro ⟨a, ha, rfl⟩
    rw [Table.mem_select, decide_eq_true_eq] at ha
    obtain ⟨hmem, henv, hproject, htenant, hlive⟩ := ha
    obtain ⟨e, he⟩ := Option.isSome_iff_exists.1 henv
    have hp : live_project db a.project_id tenant_id = some p := by rw [hproject, h]
    have hrow : agreement_row db tenant_id a = some ⟨a, p.name, e.name⟩ :=
      agreement_row_iff.2 ⟨p, e, hp, he, rfl⟩
    refine ⟨⟨a, p.name, e.name⟩, (hrows _).2 ⟨?_, hproject⟩, rfl⟩
    exact mem_agreement_query.2 ⟨hmem, htenant, hlive, hrow⟩
  · rintro ⟨r, hr, rfl⟩
    obtain ⟨hquery, hproject⟩ := (hrows r).1 hr
    obtain ⟨hmem, htenant, hlive, hrow⟩ := mem_agreement_query.1 hquery
    obtain ⟨-, e, -, he, -⟩ := agreement_row_iff.1 hrow
    refine ⟨r.agreement, ?_, rfl⟩
    rw [Table.mem_select, decide_eq_true_eq, he]
    exact ⟨hmem, rfl, hproject, htenant, hlive⟩

/-- Every view that is shown is one of a project that is found. -/
theorem live_of_view {view : ProjectView} (h : view ∈ _view_query db tenant_id) :
    live_project db view.project.id tenant_id = some view.project ∧
      view.environment_count = _environment_count db tenant_id view.project.id := by
  obtain ⟨p, hp, rfl⟩ := List.mem_map.1 h
  rw [Table.mem_select, decide_eq_true_eq] at hp
  exact ⟨live_project_iff.2 ⟨hp.1, rfl, hp.2⟩, rfl⟩

theorem mem_of_get_project_view {view : ProjectView}
    (h : get_project_view db project_id tenant_id = .ok view) :
    view ∈ _view_query db tenant_id := by
  rw [get_project_view, get_or_raise_eq_ok] at h
  exact List.mem_of_find?_eq_some h

/-- The two live agreements are of one project and name one environment and one window. -/
def twins (a b : UsageAgreement) : Prop :=
  a.deleted_at = none ∧ b.deleted_at = none ∧ a.project_id = b.project_id ∧
    a.environment_id = b.environment_id ∧ a.starts_at = b.starts_at ∧ a.ends_at = b.ends_at

/-- What is shown of the agreements, at each place it is shown. -/
structure Coincide (ext : External) (db : Db) : Prop where
  counted : ∀ tenant_id, ∀ view ∈ _view_query db tenant_id, ∃ rows n,
    list_agreements_for_project ext db view.project.id tenant_id none = .ok (rows, n) ∧
      view.environment_count = (rows.map fun r => r.agreement.environment_id).dedup.length
  shown : ∀ project_id tenant_id view, get_project_view db project_id tenant_id = .ok view →
    view ∈ _view_query db tenant_id
  in_environment : ∀ project_id tenant_id page rows n,
    list_agreements_for_project ext db project_id tenant_id page = .ok (rows, n) →
    ∀ r ∈ rows, ∃ rows' n', list_agreements_for_environment ext db r.agreement.environment_id
      tenant_id none = .ok (rows', n') ∧ r ∈ rows'
  in_project : ∀ environment_id tenant_id page rows n,
    list_agreements_for_environment ext db environment_id tenant_id page = .ok (rows, n) →
    ∀ r ∈ rows, ∃ rows' n', list_agreements_for_project ext db r.agreement.project_id
      tenant_id none = .ok (rows', n') ∧ r ∈ rows'
  distinct : ∀ a ∈ db.agreements, ∀ b ∈ db.agreements, twins a b → a = b

/-! ## Agreements that differ -/

/-- An agreement has the tenant of its project, and no other agreement has its window. -/
structure Sound (db : Db) : Prop where
  owned : ∀ a ∈ db.agreements, ∃ p ∈ db.projects, p.id = a.project_id ∧ p.tenant_id = a.tenant_id
  distinct : ∀ a ∈ db.agreements, ∀ b ∈ db.agreements, twins a b → a = b

/-- Of the two lists and the count nothing needs to be kept: any tables will do. -/
theorem Sound.coincide (h : Sound db) : Coincide ext db where
  counted tenant_id view hview := by
    obtain ⟨hlive, hcount⟩ := live_of_view hview
    have hfound : get_project db view.project.id tenant_id = .ok view.project := by
      rw [get_project, hlive]
      rfl
    obtain ⟨rows, n, hlist, hrows⟩ := list_for_project ext hfound
    exact ⟨rows, n, hlist, hcount.trans (environment_count_eq hlive hrows)⟩
  shown _ _ _ hview := mem_of_get_project_view hview
  in_environment _ _ _ _ _ hlist r hr := (in_both_lists (listed_for_project hlist r hr).1).2
  in_project _ _ _ _ _ hlist r hr := (in_both_lists (listed_for_environment hlist r hr).1).1
  distinct := h.distinct

/-- The project has the number and the tenant it had. -/
def same_project (p p' : Project) : Prop := p'.id = p.id ∧ p'.tenant_id = p.tenant_id

theorem same_project_refl (p : Project) : same_project p p := ⟨rfl, rfl⟩

theorem sound_opened (groups : Table UserGroup UserGroup.id)
    (environments : Table Environment Environment.id) : Sound (Db.opened groups environments) where
  owned a ha := absurd ha (Table.not_mem_empty a)
  distinct a ha := absurd ha (Table.not_mem_empty a)

/-- Projects that stay, and agreements that stay as they are. -/
theorem Sound.retained {db' : Db} (h : Sound db)
    (hprojects : db.projects.Retains same_project db'.projects)
    (hagreements : db'.agreements = db.agreements) : Sound db' := by
  refine ⟨?_, ?_⟩ <;> rw [hagreements]
  · intro a ha
    obtain ⟨p, hp, hid, htenant⟩ := h.owned a ha
    obtain ⟨p', hp', hid', htenant'⟩ := hprojects p hp
    exact ⟨p', hp', hid'.trans hid, htenant'.trans htenant⟩
  · exact h.distinct

/-- Agreements that are deleted: fewer are live, and no other column changes. -/
theorem Sound.agreements_deleted (now : DateTime) {p : UsageAgreement → Bool} (h : Sound db) :
    Sound { db with agreements := db.agreements.update p (agreement_deleted now) } where
  owned := (Table.forall_update_iff h.owned).2 fun a ha _ => h.owned a ha
  distinct := by
    refine Table.unique_update (fun a b htwins => ?_) h.distinct
    -- A row that was changed is not live, and so is no twin of any.
    by_cases ha : p a = true
    · rw [if_pos ha] at htwins
      exact absurd htwins.1 (by simp [agreement_deleted])
    · by_cases hb : p b = true
      · rw [if_pos hb] at htwins
        exact absurd htwins.2.1 (by simp [agreement_deleted])
      · rwa [if_neg ha, if_neg hb] at htwins

theorem twins_symm {a b : UsageAgreement} (h : twins a b) : twins b a :=
  ⟨h.2.1, h.1, h.2.2.1.symm, h.2.2.2.1.symm, h.2.2.2.2.1.symm, h.2.2.2.2.2.symm⟩

/-- An old agreement of the project is of its tenant, so that the check for a duplicate has
looked at it. -/
theorem sound_create_agreement {data : UsageAgreementCreate} {db' : Db} (h : Sound db)
    (hcreate : create_agreement db project_id data tenant_id = .ok db') :
    Sound db' := by
  simp only [create_agreement, bind_eq_ok, raise_if_eq_ok, get_project_eq_ok,
    get_or_raise_eq_ok] at hcreate
  obtain ⟨p, ⟨hp, hid, htenant, -⟩, -, -, -, -, -, hfree, hdb⟩ := hcreate
  obtain rfl := Except.ok.inj hdb
  refine ⟨?_, Table.unique_insert twins_symm h.distinct fun a ha htwins => hfree ?_⟩
  · exact (Table.forall_insert_iff h.owned).2 ⟨p, hp, hid, htenant⟩
  · obtain ⟨hlive, -, hproject, henvironment, hstarts, hends⟩ := htwins
    obtain ⟨q, hq, hqid, hqtenant⟩ := h.owned a ha
    have hsame : q = p := Table.eq_of_key_eq hq hp (hqid.trans (hproject.trans hid.symm))
    have hours : a.tenant_id = tenant_id := by rw [← hqtenant, hsame, htenant]
    exact ⟨a, ha, hours, hproject, henvironment, hstarts, hends, hlive⟩

theorem sound_delete_project {now : DateTime} {db' : Db} (h : Sound db)
    (hdelete : delete_project db project_id tenant_id now = .ok db') :
    Sound db' := by
  obtain ⟨project, -, hdb⟩ := bind_eq_ok.1 hdelete
  rw [← Except.ok.inj hdb]
  have hdeleted := h.agreements_deleted now
    (p := fun a => a.tenant_id = tenant_id ∧ a.project_id = project_id ∧ a.deleted_at = none)
  exact hdeleted.retained
    (Table.retains_update same_project_refl _ _ fun _ => ⟨rfl, rfl⟩) rfl

/-- **What one request keeps.** -/
theorem Sound.handle {request : Request} {db' : Db} (h : Sound db)
    (hhandle : Projects.handle ext db request = .ok db') : Sound db' := by
  cases request with
  | create_project data tenant_id =>
    obtain ⟨_, _, hrest⟩ := bind_eq_ok.1 hhandle
    obtain ⟨_, _, hrest⟩ := bind_eq_ok.1 hrest
    obtain ⟨_, _, hdb⟩ := bind_eq_ok.1 hrest
    rw [← Except.ok.inj hdb]
    exact h.retained (Table.retains_insert same_project_refl _ _) rfl
  | delete_project project_id tenant_id now => exact sound_delete_project h hhandle
  | create_agreement project_id data tenant_id => exact sound_create_agreement h hhandle
  | delete_agreement project_id agreement_id tenant_id now =>
    obtain ⟨_, _, hrest⟩ := bind_eq_ok.1 hhandle
    obtain ⟨_, _, hdb⟩ := bind_eq_ok.1 hrest
    rw [← Except.ok.inj hdb]
    exact h.agreements_deleted _
  | create_environment new =>
    rw [← Except.ok.inj hhandle]
    exact ⟨h.owned, h.distinct⟩
  | delete_environment env_id tenant_id now =>
    obtain ⟨_, _, hdb⟩ := bind_eq_ok.1 hhandle
    rw [← Except.ok.inj hdb]
    exact ⟨h.owned, h.distinct⟩

/-- **The count and the two lists agree in every state**: whatever is requested, in whatever
order, a project shows as many environments as are listed for it, a row is listed at its project
if and only if it is at its environment, and no agreement is there twice. -/
theorem agreements_coincide (ext : External) (groups : Table UserGroup UserGroup.id)
    (environments : Table Environment Environment.id) (requests : List Request) :
    Coincide ext (run (step ext) (Db.opened groups environments) requests) := by
  have hstep : ∀ (db : Db) request, Sound db → Sound (step ext db request) :=
    fun db request h => commit_or_rollback_keeps h fun _ hhandle => h.handle hhandle
  exact (run_inv hstep (sound_opened groups environments) requests).coincide

end EnvMgr.Projects
