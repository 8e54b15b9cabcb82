/-
The team that operates an environment: `services/user_group_service.py` beside the services that
name a group on an environment.

A group is deleted by a stamp, and three places look after the environments that name it: the
deletion is refused while a live environment does, a group that is newly named must be live, and
a request is fulfilled with the group it was given only if that group is live by then. An update
that sends the group the environment has already is let through unasked.
-/
import EnvMgr.Compliance.CreatedOnce

namespace EnvMgr.Compliance

open Bookings (Json)
open Lifecycle (require_tenant_admin)
open Runs (run)

/-! ## The groups -/

/-- A row of `user_group`, with the columns that only its own service reads. -/
structure Group where
  id : ℕ
  tenant_id : ℕ
  name : String
  description : Option String
  deleted_at : Option DateTime
  deriving DecidableEq

/-- What the other services look up of a group. -/
def Group.listed (group : Group) : UserGroup := ⟨group.id, group.tenant_id, group.deleted_at⟩

/-- The groups, and the tables of the services that look them up. -/
structure TeamDb where
  groups : Table Group Group.id
  db : Db

def TeamDb.opened (reference : Reference) : TeamDb := ⟨Table.empty, Db.opened reference⟩

/-- The tables as the other services find them. -/
def TeamDb.view (s : TeamDb) : Db :=
  { s.db with
    reference := { s.db.reference with user_groups := s.groups.rows.map Group.listed } }

/-- `Field(min_length=1, max_length=200)`. -/
abbrev GroupName := { s : String // 1 ≤ s.length ∧ s.length ≤ 200 }

structure UserGroupCreate where
  name : GroupName
  description : Option String
  deriving DecidableEq

/-- A null name does not pass the schema. -/
structure UserGroupUpdate where
  name : Option GroupName
  description : Sent String
  deriving DecidableEq

/-- `get_group` on the table itself. -/
def get_team (s : TeamDb) (group_id tenant_id : ℕ) : Except Raised Group :=
  get_or_raise
    (s.groups.select_one fun g => g.id = group_id ∧ g.tenant_id = tenant_id ∧ g.deleted_at = none)
    (http 404 "User group not found")

/-- `lower` of the database on the stored name, `str.lower` on the one that is asked for. -/
def _assert_name_free (ext : External) (sql_lower : String → String) (s : TeamDb)
    (tenant_id : ℕ) (name : String) (exclude_id : Option ℕ) : Except Raised Unit :=
  raise_if
    (∃ g ∈ s.groups, g.tenant_id = tenant_id ∧ g.deleted_at = none ∧
      sql_lower g.name = ext.lower (strip name) ∧ some g.id ≠ exclude_id)
    (http 409 s!"A group named '{strip name}' already exists in this tenant")

def create_group (ext : External) (sql_lower : String → String) (s : TeamDb)
    (data : UserGroupCreate) (tenant_id : ℕ) : Except Raised TeamDb := do
  _assert_name_free ext sql_lower s tenant_id data.name none
  .ok { s with
    groups := s.groups.insert
      ⟨fun id => ⟨id, tenant_id, strip data.name, data.description, none⟩, fun _ => rfl⟩ }

def UserGroupUpdate.assign (data : UserGroupUpdate) (group : Group) : Group :=
  { group with
    name := (data.name.map fun name => strip name).getD group.name
    description := data.description.set_nullable group.description }

def update_group (ext : External) (sql_lower : String → String) (s : TeamDb) (group_id : ℕ)
    (data : UserGroupUpdate) (tenant_id : ℕ) : Except Raised TeamDb := do
  let group ← get_team s group_id tenant_id
  for_each data.name.toList fun name =>
    if ext.lower (strip name) ≠ ext.lower group.name then
      _assert_name_free ext sql_lower s tenant_id name (some group_id)
    else .ok ()
  .ok { s with
    groups := s.groups.update (fun g => g.id = group.id) ⟨data.assign, fun _ => rfl⟩ }

def _MAX_NAMED_BLOCKERS : ℕ := 10

/-- The live environments that the group operates. -/
def blockers (s : TeamDb) (group_id tenant_id : ℕ) : List Environment :=
  s.db.environments.select fun env =>
    env.operations_group_id = some group_id ∧ env.tenant_id = tenant_id ∧ env.deleted_at = none

/-- The first few blockers by name, and how many more there are. -/
def blocked_detail (blockers : List Environment) : String :=
  let named := ((order_by (fun env : Environment => toLex (env.name, env.id)) blockers).take
    _MAX_NAMED_BLOCKERS).map Environment.name
  let remainder := blockers.length - named.length
  "This group operates " ++ ", ".intercalate named
    ++ (if remainder > 0 then s!" and {remainder} more" else "")
    ++ ". Reassign them before deleting it."

/-- The rows of the members go with the group. -/
def delete_group (s : TeamDb) (group_id tenant_id : ℕ) (now : DateTime) :
    Except Raised TeamDb := do
  let group ← get_team s group_id tenant_id
  raise_if (blockers s group_id tenant_id ≠ [])
    (http 409 (blocked_detail (blockers s group_id tenant_id)))
  .ok {
    groups := s.groups.update (fun g => g.id = group.id)
      ⟨fun g => { g with deleted_at := some now }, fun _ => rfl⟩
    db := { s.db with
      reference := { s.db.reference with
        group_members := s.db.reference.group_members.filter fun m =>
          ¬ (m.group_id = group_id ∧ m.tenant_id = tenant_id) } } }

/-! ## Everything that may happen -/

/-- A request to the groups, or to the services that name them. Among the latter `others` is any
write to the rows they only look up; the groups are not among those here. -/
inductive TeamCall
  | create_group (user : CurrentUser) (data : UserGroupCreate)
  | update_group (user : CurrentUser) (group_id : ℕ) (data : UserGroupUpdate)
  | delete_group (user : CurrentUser) (group_id : ℕ) (now : DateTime)
  | service (request : Request)

def TeamCall.handle (ext : External) (sql_lower : String → String) (s : TeamDb) :
    TeamCall → Except Raised TeamDb
  | .create_group user data => do
    require_tenant_admin user
    Compliance.create_group ext sql_lower s data user.active_tenant_id
  | .update_group user group_id data => do
    require_tenant_admin user
    Compliance.update_group ext sql_lower s group_id data user.active_tenant_id
  | .delete_group user group_id now => do
    require_tenant_admin user
    Compliance.delete_group s group_id user.active_tenant_id now
  | .service request => (Compliance.handle ext s.view request).map fun db => { s with db := db }

def team_step (ext : External) (sql_lower : String → String) (s : TeamDb) (call : TeamCall) :
    TeamDb :=
  commit_or_rollback s (call.handle ext sql_lower s)

/-! ## Live environments name live groups -/

/-- The team of a live environment is none, or a live one of its tenant among `groups`. -/
def Teamed (groups : List UserGroup) (env : Environment) : Prop :=
  env.deleted_at = none → ∀ id, env.operations_group_id = some id →
    ∃ g ∈ groups, g.id = id ∧ g.tenant_id = env.tenant_id ∧ g.deleted_at = none

/-- So it is of every environment, by the groups that the services look up. -/
def AllTeamed (groups : List UserGroup) (db : Db) : Prop := ∀ env ∈ db.environments, Teamed groups env

variable {ext : External} {db db' : Db} {tenant_id : ℕ} {now : DateTime} {groups : List UserGroup}

theorem AllTeamed.congr (h : AllTeamed groups db) (henvs : db'.environments = db.environments) :
    AllTeamed groups db' := by
  rw [AllTeamed, henvs]
  exact h

/-- A new environment must only name a live group. -/
theorem AllTeamed.add (h : AllTeamed groups db) (r : EnvironmentRecord)
    (hteam : ∀ id, r.operations_group_id = some id →
      ∃ g ∈ groups, g.id = id ∧ g.tenant_id = tenant_id ∧ g.deleted_at = none) :
    AllTeamed groups (add_environment ext db tenant_id r now) :=
  (Table.forall_insert_iff h).2 fun _ => hteam

/-- The check of the keys: the group is the one that is stored, or a live one. -/
theorem validated_group {tier_id owner_user_id operations_group_id current : Option ℕ}
    (h : _validate_client_foreign_keys db tenant_id tier_id owner_user_id operations_group_id
      current = .ok ()) {id : ℕ} (hid : operations_group_id = some id) :
    some id = current ∨ ∃ g ∈ db.reference.user_groups,
      g.id = id ∧ g.tenant_id = tenant_id ∧ g.deleted_at = none := by
  simp only [_validate_client_foreign_keys, bind_eq_ok, for_each_eq_ok, Option.mem_toList] at h
  obtain ⟨_, -, _, -, hgroup⟩ := h
  have hchecked := hgroup id hid
  split at hchecked
  · next hstored => exact Or.inl hstored
  · simp only [bind_eq_ok] at hchecked
    obtain ⟨group, hfound, -⟩ := hchecked
    exact Or.inr (get_group_ok.1 ⟨group, hfound⟩)

theorem allTeamed_create_record (h : AllTeamed db.reference.user_groups db) {r : EnvironmentRecord}
    (hok : create_environment_record ext db tenant_id r now = .ok db') :
    AllTeamed db.reference.user_groups db' := by
  simp only [create_environment_record, bind_eq_ok, Except.ok.injEq] at hok
  obtain ⟨_, -, _, -, _, hkeys, _, -, rfl⟩ := hok
  refine h.add r fun id hid => ?_
  exact (validated_group hkeys hid).resolve_left (Option.some_ne_none id)

theorem allTeamed_update (h : AllTeamed db.reference.user_groups db) {env_id : ℕ}
    {data : EnvironmentUpdate} (hok : update_environment ext db env_id data tenant_id = .ok db') :
    AllTeamed db.reference.user_groups db' := by
  simp only [update_environment, bind_eq_ok, Except.ok.injEq] at hok
  obtain ⟨env, henv, named, -, _, -, _, hkeys, _, -, rfl⟩ := hok
  obtain ⟨hmem, htenant, hlive⟩ := get_environment_ok henv
  refine (Table.forall_update_key_iff h hmem).2 fun _ id hid => ?_
  have hset : data.operations_group_id.set_nullable env.operations_group_id = some id := hid
  have hstored : env.operations_group_id = some id →
      ∃ g ∈ db.reference.user_groups, g.id = id ∧ g.tenant_id = env.tenant_id ∧
        g.deleted_at = none := h env hmem hlive id
  cases hsent : data.operations_group_id with
  | omitted =>
    rw [hsent] at hset
    exact hstored hset
  | null =>
    rw [hsent] at hset
    cases hset
  | value sent =>
    rw [hsent] at hset hkeys
    cases hset
    rcases validated_group hkeys rfl with hsame | hgroup
    · exact hstored hsame.symm
    · rw [← htenant] at hgroup
      exact hgroup

theorem allTeamed_delete (h : AllTeamed groups db) {env_id : ℕ}
    (hok : delete_environment db env_id tenant_id now = .ok db') : AllTeamed groups db' := by
  simp only [delete_environment, bind_eq_ok, Except.ok.injEq] at hok
  obtain ⟨env, -, rfl⟩ := hok
  exact (Table.forall_update_iff h).2 fun e _ _ hlive => absurd hlive (Option.some_ne_none now)

theorem allTeamed_upsert_policy (h : AllTeamed groups db) {data : EnvironmentNamingPolicyUpdate}
    (hok : upsert_policy ext db tenant_id data now = .ok db') : AllTeamed groups db' := by
  simp only [upsert_policy, bind_eq_ok, Except.ok.injEq] at hok
  obtain ⟨_, -, _, -, rfl⟩ := hok
  exact (Table.forall_update_iff h).2 fun env henv _ => h env henv

/-- A request is fulfilled with the group it names only if that is live at that moment. -/
theorem allTeamed_transition (h : AllTeamed db.reference.user_groups db) {request_id : ℕ}
    {to_state : String} {user : CurrentUser}
    (hok : transition ext db request_id to_state user tenant_id now = .ok db') :
    AllTeamed db.reference.user_groups db' := by
  simp only [transition, bind_eq_ok] at hok
  obtain ⟨req, -, _, -, hok⟩ := hok
  split at hok
  · simp only [bind_eq_ok, Except.ok.injEq] at hok
    obtain ⟨_, -, _, -, rfl⟩ := hok
    exact h.congr rfl
  · split at hok
    · simp only [bind_eq_ok, Except.ok.injEq] at hok
      obtain ⟨db₁, hfulfil, rfl⟩ := hok
      obtain ⟨hfulfillable, r, hr, rfl⟩ := fulfil_ok.1 hfulfil
      have hadded : AllTeamed db.reference.user_groups
          (add_environment ext db tenant_id r now) := by
        refine h.add r fun id hid => ?_
        obtain ⟨team, hteam, hgroup⟩ := hfulfillable.team
        -- the group of the record is the one of the request
        have hsame : r.operations_group_id = req.operations_group_id := by
          unfold EnvironmentRequest.record at hr
          split at hr
          · cases hr
            rfl
          · cases hr
        rw [hsame, hteam, Option.some.injEq] at hid
        rw [← hid]
        exact hgroup
      exact hadded.congr rfl
    · cases hok
      exact h.congr rfl

/-- **One request of the services.** -/
theorem allTeamed_handle (h : AllTeamed db.reference.user_groups db) {request : Request}
    (hok : handle ext db request = .ok db') : AllTeamed db.reference.user_groups db' := by
  cases request with
  | create_environment user data now =>
    simp only [handle, create_environment, bind_eq_ok] at hok
    obtain ⟨_, -, _, -, hok⟩ := hok
    exact allTeamed_create_record h hok
  | update_environment user env_id data =>
    simp only [handle, bind_eq_ok] at hok
    obtain ⟨_, -, hok⟩ := hok
    exact allTeamed_update h hok
  | delete_environment user env_id now =>
    simp only [handle, bind_eq_ok] at hok
    obtain ⟨_, -, hok⟩ := hok
    exact allTeamed_delete h hok
  | import_environments user file now =>
    simp only [handle, bind_eq_ok, Except.ok.injEq] at hok
    obtain ⟨_, -, ⟨db₁, result⟩, himport, rfl⟩ := hok
    refine import_keeps (P := AllTeamed db.reference.user_groups) ?_ himport h
    intro s s' r hnone hcreated hs
    simp only [create_environment_record, bind_eq_ok, Except.ok.injEq] at hcreated
    obtain ⟨_, -, _, -, _, -, _, -, rfl⟩ := hcreated
    refine hs.add r fun id hid => ?_
    rw [hnone] at hid
    cases hid
  | put_environment_naming_policy user data now =>
    simp only [handle, bind_eq_ok] at hok
    obtain ⟨_, -, hok⟩ := hok
    exact allTeamed_upsert_policy h hok
  | create_environment_request user data =>
    simp only [handle, create_request, bind_eq_ok, Except.ok.injEq] at hok
    obtain ⟨_, -, _, -, tpl, -, status, -, rfl⟩ := hok
    exact h.congr rfl
  | update_environment_request user request_id data =>
    simp only [handle, update_request, bind_eq_ok, Except.ok.injEq] at hok
    obtain ⟨req, -, _, -, _, -, _, -, _, -, _, -, rfl⟩ := hok
    exact h.congr rfl
  | transition_environment_request user request_id to_state now =>
    exact allTeamed_transition h hok
  | others reference =>
    cases hok
    exact h.congr rfl

/-! ## Runs -/

/-- Every live environment is without a team, or has a live one of its tenant. -/
def Operated (s : TeamDb) : Prop :=
  ∀ env ∈ s.db.environments, env.deleted_at = none → ∀ id, env.operations_group_id = some id →
    ∃ g ∈ s.groups, g.id = id ∧ g.tenant_id = env.tenant_id ∧ g.deleted_at = none

/-- What the services look up says the same. -/
theorem operated_iff {s : TeamDb} :
    Operated s ↔ AllTeamed (s.groups.rows.map Group.listed) s.db := by
  simp only [Operated, AllTeamed, Teamed, List.mem_map]
  constructor
  · intro h env henv hlive id hid
    obtain ⟨g, hg, hmatch⟩ := h env henv hlive id hid
    exact ⟨g.listed, ⟨g, hg, rfl⟩, hmatch⟩
  · intro h env henv hlive id hid
    obtain ⟨_, ⟨g, hg, rfl⟩, hmatch⟩ := h env henv hlive id hid
    exact ⟨g, hg, hmatch⟩

/-- Groups that stay where they were keep every environment operated. -/
theorem Operated.regroup {s : TeamDb} (h : Operated s) {groups : Table Group Group.id}
    (hkeep : ∀ env ∈ s.db.environments, env.deleted_at = none →
      ∀ g ∈ s.groups, env.operations_group_id = some g.id → g.tenant_id = env.tenant_id →
        g.deleted_at = none → ∃ g' ∈ groups, g'.id = g.id ∧ g'.tenant_id = g.tenant_id ∧
          g'.deleted_at = none) (reference : Reference) :
    Operated ⟨groups, { s.db with reference := reference }⟩ := by
  intro env henv hlive id hid
  obtain ⟨g, hg, rfl, htenant, hlive_group⟩ := h env henv hlive id hid
  obtain ⟨g', hg', hsame, htenant', hlive'⟩ := hkeep env henv hlive g hg hid htenant hlive_group
  exact ⟨g', hg', hsame, htenant'.trans htenant, hlive'⟩

theorem operated_handle {sql_lower : String → String} {s s' : TeamDb} {call : TeamCall}
    (h : Operated s) (hok : call.handle ext sql_lower s = .ok s') : Operated s' := by
  cases call with
  | service request =>
    simp only [TeamCall.handle, map_eq_ok] at hok
    obtain ⟨db', hok, rfl⟩ := hok
    have hview : AllTeamed s.view.reference.user_groups s.view := operated_iff.1 h
    exact operated_iff.2 (allTeamed_handle hview hok)
  | create_group user data =>
    simp only [TeamCall.handle, create_group, bind_eq_ok, Except.ok.injEq] at hok
    obtain ⟨_, -, _, -, rfl⟩ := hok
    exact h.regroup (fun _ _ _ g hg _ _ hlive =>
      ⟨g, Table.mem_insert.2 (Or.inl hg), rfl, rfl, hlive⟩) s.db.reference
  | update_group user group_id data =>
    simp only [TeamCall.handle, update_group, bind_eq_ok, Except.ok.injEq] at hok
    obtain ⟨_, -, group, -, _, -, rfl⟩ := hok
    refine h.regroup (fun _ _ _ g hg _ _ hlive => ?_) s.db.reference
    obtain ⟨g', hg', hsame⟩ := Table.retains_update
      (R := fun a b : Group => b.id = a.id ∧ b.tenant_id = a.tenant_id ∧
        b.deleted_at = a.deleted_at)
      (fun _ => ⟨rfl, rfl, rfl⟩) s.groups (fun g => g.id = group.id)
      (f := ⟨data.assign, fun _ => rfl⟩) (fun _ => ⟨rfl, rfl, rfl⟩) g hg
    exact ⟨g', hg', hsame.1, hsame.2.1, hsame.2.2.trans hlive⟩
  | delete_group user group_id now =>
    simp only [TeamCall.handle, delete_group, bind_eq_ok, raise_if_eq_ok, not_not,
      Except.ok.injEq] at hok
    obtain ⟨_, -, group, hgroup, _, hnone, rfl⟩ := hok
    rw [get_team, get_or_raise_eq_ok] at hgroup
    obtain ⟨hmem, hmatch⟩ := Table.select_one_some hgroup
    simp only [decide_eq_true_eq] at hmatch
    obtain ⟨hid, htenant, -⟩ := hmatch
    refine h.regroup (fun env henv hlive g hg hnamed hof hlive_group => ?_) _
    refine ⟨g, Table.mem_update_of_neg hg (decide_eq_false fun hsame => ?_), rfl, rfl, hlive_group⟩
    -- an environment that names the group is of its tenant, so the deletion was refused
    have hg_eq : g = group := Table.eq_of_key_eq hg hmem hsame
    have hblocks : env ∈ blockers s group_id user.active_tenant_id := by
      refine Table.mem_select.2 ⟨henv, decide_eq_true ⟨?_, ?_, hlive⟩⟩
      · rw [hnamed, hsame, hid]
      · rw [← hof, hg_eq, htenant]
    rw [hnone] at hblocks
    cases hblocks

theorem operated_step {sql_lower : String → String} (s : TeamDb) (call : TeamCall)
    (h : Operated s) : Operated (team_step ext sql_lower s call) :=
  commit_or_rollback_keeps h fun _ hok => operated_handle h hok

/-- **Live environments are operated by live groups.** In whatever order groups are created,
changed and deleted, environments created, changed, imported and deleted, and requests created,
edited and fulfilled, a live environment names no group or a live one of its tenant. -/
theorem operated_run (ext : External) (sql_lower : String → String) (reference : Reference)
    (calls : List TeamCall) :
    Operated (run (team_step ext sql_lower) (TeamDb.opened reference) calls) := by
  have hopened : Operated (TeamDb.opened reference) :=
    fun env henv => absurd henv (Table.not_mem_empty env)
  exact Runs.run_inv operated_step hopened calls

end EnvMgr.Compliance
