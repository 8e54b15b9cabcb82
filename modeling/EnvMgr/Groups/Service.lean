/-
Environment groups: `environment_group_service.py` and its routes.

A group is a named set of environments that is booked as one. Its members are read in four places:
the count that a group is shown with, the list of its members, the list of the groups of an
environment, and the environments that a booking of the group expands to. Each is a query of its
own over the same three tables. Environments come, change and go in another service, and take
nothing of a group's rows with them.
-/
import EnvMgr.Core.Pagination

namespace EnvMgr.Groups

open Deployments (Page fetch_page)
open Paging (Term Answers Separates)
open Runs (run Along)
open EnvMgr.Core

variable {group_id environment_id : ℕ}

/-! ## Tables -/

structure EnvironmentGroup where
  id : ℕ
  tenant_id : ℕ
  name : String
  description : Option String
  is_active : Bool
  created_at : DateTime
  deleted_at : Option DateTime
  deriving DecidableEq

structure EnvironmentGroupMember where
  id : ℕ
  tenant_id : ℕ
  group_id : ℕ
  environment_id : ℕ
  deleted_at : Option DateTime
  deriving DecidableEq

structure Db where
  groups : Table EnvironmentGroup EnvironmentGroup.id
  members : Table EnvironmentGroupMember EnvironmentGroupMember.id
  environments : Table Environment Environment.id

def Db.fresh : Db := ⟨Table.empty, Table.empty, Table.empty⟩

/-- `str.lower`, and `LOWER` and `ILIKE` of the database. -/
structure External where
  lower : String → String
  sql_lower : String → String
  ilike : String → String → Bool

/-! ## Look-ups -/

def live_group (db : Db) (group_id tenant_id : ℕ) : Option EnvironmentGroup :=
  db.groups.select_one fun g => g.id = group_id ∧ g.tenant_id = tenant_id ∧ g.deleted_at = none

def live_environment (db : Db) (environment_id tenant_id : ℕ) : Option Environment :=
  db.environments.select_one fun e =>
    e.id = environment_id ∧ e.tenant_id = tenant_id ∧ e.deleted_at = none

def get_group (db : Db) (group_id tenant_id : ℕ) : Except Raised EnvironmentGroup :=
  get_or_raise (live_group db group_id tenant_id) (http 404 "Environment group not found")

/-! ## The four queries -/

/-- A group with the count it is listed with. -/
structure GroupView where
  group : EnvironmentGroup
  member_count : ℕ
  deriving DecidableEq

def _member_count_clause (db : Db) (tenant_id group_id : ℕ) : ℕ :=
  (db.members.select fun m => (live_environment db m.environment_id tenant_id).isSome ∧
    m.group_id = group_id ∧ m.tenant_id = tenant_id ∧ m.deleted_at = none).length

def _view_query (db : Db) (tenant_id : ℕ) : List GroupView :=
  (db.groups.select fun g => g.tenant_id = tenant_id ∧ g.deleted_at = none).map fun g =>
    ⟨g, _member_count_clause db tenant_id g.id⟩

def live_member_ids (db : Db) (group_id tenant_id : ℕ) : List ℕ :=
  (db.members.select fun m => (live_environment db m.environment_id tenant_id).isSome ∧
    m.group_id = group_id ∧ m.tenant_id = tenant_id ∧ m.deleted_at = none).map
    EnvironmentGroupMember.environment_id

/-- A membership with both ends' names. -/
structure MemberRow where
  member : EnvironmentGroupMember
  group_name : String
  environment_name : String
  deriving DecidableEq

def member_row (db : Db) (tenant_id : ℕ) (m : EnvironmentGroupMember) : Option MemberRow := do
  let group ← live_group db m.group_id tenant_id
  let environment ← live_environment db m.environment_id tenant_id
  some ⟨m, group.name, environment.name⟩

def _member_query (db : Db) (tenant_id : ℕ) : List MemberRow :=
  (db.members.select fun m => m.tenant_id = tenant_id ∧ m.deleted_at = none).filterMap
    (member_row db tenant_id)

def list_members (ext : External) (db : Db) (group_id tenant_id : ℕ) (page : Option Page) :
    Except Raised (List MemberRow × ℕ) := do
  let _ ← get_group db group_id tenant_id
  let rows := (_member_query db tenant_id).filter fun r => r.member.group_id = group_id
  .ok (fetch_page
    (order_by (fun r => toLex (ext.sql_lower r.environment_name, r.member.id)) rows) page)

def list_groups_for_environment (ext : External) (db : Db) (environment_id tenant_id : ℕ)
    (page : Option Page) : Except Raised (List MemberRow × ℕ) := do
  let _ ← get_or_raise (live_environment db environment_id tenant_id)
    (http 404 "Environment not found")
  let rows := (_member_query db tenant_id).filter fun r => r.member.environment_id = environment_id
  .ok (fetch_page
    (order_by (fun r => toLex (ext.sql_lower r.group_name, r.member.id)) rows) page)

/-! ## The list of groups -/

def ENVIRONMENT_GROUP_SORTS : Dict (SortTarget GroupView) where
  items :=
    [("name", .text fun v => some v.group.name),
      ("created_at", .typed fun v => some v.group.created_at)]
  keys_nodup := by decide

/-- The rows of `list_groups`, which the database answers in the order of `group_order`. -/
def group_rows (ext : External) (db : Db) (tenant_id : ℕ) (search : Option String)
    (is_active : Option Bool) : List GroupView :=
  (_view_query db tenant_id).filter fun v =>
    (∀ text ∈ search, text ≠ "" → ext.ilike v.group.name ("%" ++ text ++ "%")) ∧
      ∀ active ∈ is_active, v.group.is_active = active

def tiebreakers (ext : External) : List (Term GroupView) :=
  [.by_key fun v => ext.sql_lower v.group.name, .by_key fun v => v.group.id]

def group_order (ext : External) (sort : Option (ListSort GroupView)) : List (Term GroupView) :=
  apply_sort ext.sql_lower [] sort ++ tiebreakers ext

/-! ## Writing groups -/

def get_group_view (db : Db) (group_id tenant_id : ℕ) : Except Raised GroupView :=
  get_or_raise ((_view_query db tenant_id).find? fun v => v.group.id = group_id)
    (http 404 "Environment group not found")

def _assert_name_free (ext : External) (db : Db) (tenant_id : ℕ) (name : String)
    (exclude_id : Option ℕ) : Except Raised Unit :=
  raise_if
    (∃ g ∈ db.groups, g.tenant_id = tenant_id ∧ g.deleted_at = none ∧
      ext.sql_lower g.name = ext.lower (strip name) ∧ some g.id ≠ exclude_id)
    (http 409 s!"An environment group named '{strip name}' already exists in this tenant")

structure EnvironmentGroupCreate where
  name : String
  description : Option String
  is_active : Bool

def EnvironmentGroupCreate.new (data : EnvironmentGroupCreate) (tenant_id : ℕ) (now : DateTime) :
    Table.New EnvironmentGroup.id where
  row id := ⟨id, tenant_id, strip data.name, data.description, data.is_active, now, none⟩
  key_row _ := rfl

def create_group (ext : External) (db : Db) (data : EnvironmentGroupCreate) (tenant_id : ℕ)
    (now : DateTime) : Except Raised Db := do
  _assert_name_free ext db tenant_id data.name none
  let created := { db with groups := db.groups.insert (data.new tenant_id now) }
  let _ ← get_group_view created db.groups.next tenant_id
  .ok created

/-- The schema refuses a null for the name and the flag. -/
structure EnvironmentGroupUpdate where
  name : Option String
  description : Sent String
  is_active : Option Bool

def EnvironmentGroupUpdate.edit (data : EnvironmentGroupUpdate) : Table.Edit EnvironmentGroup.id where
  apply g :=
    { g with
      name := (data.name.map strip).getD g.name
      description := data.description.set_nullable g.description
      is_active := data.is_active.getD g.is_active }
  key_apply _ := rfl

/-- The name is checked where it is sent, and other than it was but for its case. -/
def assert_rename_free (ext : External) (db : Db) (group : EnvironmentGroup) (tenant_id : ℕ) :
    Option String → Except Raised Unit
  | some name =>
    if ext.lower (strip name) ≠ ext.lower group.name then
      _assert_name_free ext db tenant_id name (some group.id)
    else .ok ()
  | none => .ok ()

def update_group (ext : External) (db : Db) (group_id : ℕ) (data : EnvironmentGroupUpdate)
    (tenant_id : ℕ) : Except Raised Db := do
  let group ← get_group db group_id tenant_id
  assert_rename_free ext db group tenant_id data.name
  let updated := { db with groups := db.groups.update (fun g => g.id = group.id) data.edit }
  let _ ← get_group_view updated group_id tenant_id
  .ok updated

def group_deleted (now : DateTime) : Table.Edit EnvironmentGroup.id where
  apply g := { g with deleted_at := some now }
  key_apply _ := rfl

def member_deleted (now : DateTime) : Table.Edit EnvironmentGroupMember.id where
  apply m := { m with deleted_at := some now }
  key_apply _ := rfl

/-- The memberships of the group are deleted with it. -/
def delete_group (db : Db) (group_id tenant_id : ℕ) (now : DateTime) : Except Raised Db := do
  let group ← get_group db group_id tenant_id
  .ok { db with
    groups := db.groups.update (fun g => g.id = group.id) (group_deleted now)
    members := db.members.update
      (fun m => m.group_id = group_id ∧ m.tenant_id = tenant_id ∧ m.deleted_at = none)
      (member_deleted now) }

/-! ## Writing memberships -/

def new_member (group_id environment_id tenant_id : ℕ) : Table.New EnvironmentGroupMember.id where
  row id := ⟨id, tenant_id, group_id, environment_id, none⟩
  key_row _ := rfl

def add_member (db : Db) (group_id environment_id tenant_id : ℕ) : Except Raised Db := do
  let _ ← get_group db group_id tenant_id
  let env ← get_or_raise (live_environment db environment_id tenant_id)
    (http 404 "Environment not found")
  let name := env.name
  raise_if
    (∃ m ∈ db.members, m.tenant_id = tenant_id ∧ m.group_id = group_id ∧
      m.environment_id = environment_id ∧ m.deleted_at = none)
    (http 409 s!"'{name}' is already a member of this group")
  .ok { db with members := db.members.insert (new_member group_id environment_id tenant_id) }

def remove_member (db : Db) (group_id member_id tenant_id : ℕ) (now : DateTime) :
    Except Raised Db := do
  let _ ← get_group db group_id tenant_id
  let member ← get_or_raise
    (db.members.select_one fun m => m.id = member_id ∧ m.group_id = group_id ∧
      m.tenant_id = tenant_id ∧ m.deleted_at = none)
    (http 404 "Membership not found")
  .ok { db with members := db.members.update (fun m => m.id = member.id) (member_deleted now) }

/-! ## Requests -/

/-- The routes that write. `environments` is any write of the environments' own service: rows
added, changed and deleted. -/
inductive Request
  | create (user : CurrentUser) (data : EnvironmentGroupCreate) (now : DateTime)
  | update (user : CurrentUser) (group_id : ℕ) (data : EnvironmentGroupUpdate)
  | delete (user : CurrentUser) (group_id : ℕ) (now : DateTime)
  | add_member (user : CurrentUser) (group_id environment_id : ℕ)
  | remove_member (user : CurrentUser) (group_id member_id : ℕ) (now : DateTime)
  | environments (environments : Table Environment Environment.id)

def handle (ext : External) (db : Db) : Request → Except Raised Db
  | .create user data now => do
    require_role Role.ADMIN user
    create_group ext db data user.active_tenant_id now
  | .update user group_id data => do
    require_role Role.ADMIN user
    update_group ext db group_id data user.active_tenant_id
  | .delete user group_id now => do
    require_role Role.ADMIN user
    delete_group db group_id user.active_tenant_id now
  | .add_member user group_id environment_id => do
    require_role Role.ADMIN user
    add_member db group_id environment_id user.active_tenant_id
  | .remove_member user group_id member_id now => do
    require_role Role.ADMIN user
    remove_member db group_id member_id user.active_tenant_id now
  | .environments environments => .ok { db with environments := environments }

def step (ext : External) (db : Db) (request : Request) : Db :=
  commit_or_rollback db (handle ext db request)

variable {ext : External} {db : Db} {t : ℕ}

/-! ## One meaning of "live member" -/

theorem live_group_iff {g : EnvironmentGroup} : live_group db group_id t = some g ↔
    g ∈ db.groups ∧ g.id = group_id ∧ g.tenant_id = t ∧ g.deleted_at = none :=
  Table.select_one_key_iff fun _ h => h.1

theorem get_group_ok {g : EnvironmentGroup} (h : get_group db group_id t = .ok g) :
    g ∈ db.groups ∧ g.id = group_id ∧ g.tenant_id = t ∧ g.deleted_at = none :=
  live_group_iff.1 (get_or_raise_eq_ok.1 h)

theorem member_row_eq {m : EnvironmentGroupMember} {r : MemberRow}
    (h : member_row db t m = some r) : r.member = m := by
  simp only [member_row, Option.bind_eq_bind, Option.bind_eq_some_iff, Option.some.injEq] at h
  obtain ⟨_, -, _, -, rfl⟩ := h
  rfl

/-- Rows that are made of some of the things of a list, one each, are those things. -/
theorem map_filterMap {α β : Type} {f : α → Option β} {g : β → α}
    (h : ∀ a b, f a = some b → g b = a) (xs : List α) :
    (xs.filterMap f).map g = xs.filter fun a => (f a).isSome := by
  rw [List.map_filterMap, ← List.filterMap_eq_filter]
  refine List.filterMap_congr fun a _ => ?_
  cases hf : f a with
  | none => simp [Option.guard, hf]
  | some b => simp [Option.guard, hf, h a b hf]

theorem member_row_isSome (m : EnvironmentGroupMember) : (member_row db t m).isSome = true ↔
    (live_group db m.group_id t).isSome ∧ (live_environment db m.environment_id t).isSome := by
  unfold member_row
  cases live_group db m.group_id t <;> cases live_environment db m.environment_id t <;> simp

/-- The memberships that are shown. -/
def Shown (db : Db) (t : ℕ) (m : EnvironmentGroupMember) : Prop :=
  (live_group db m.group_id t).isSome ∧ (live_environment db m.environment_id t).isSome ∧
    m.tenant_id = t ∧ m.deleted_at = none
  deriving Decidable

theorem member_query_map (db : Db) (t : ℕ) (p : EnvironmentGroupMember → Bool) :
    ((_member_query db t).filter fun r => p r.member).map MemberRow.member =
      db.members.select fun m => p m ∧ Shown db t m := by
  have hfilter : ((_member_query db t).filter fun r => p r.member).map MemberRow.member =
      ((_member_query db t).map MemberRow.member).filter p := List.filter_map.symm
  rw [hfilter, _member_query, map_filterMap fun _ _ => member_row_eq]
  unfold Table.select
  rw [List.filter_filter, List.filter_filter]
  refine List.filter_congr fun m _ => ?_
  rw [Bool.eq_iff_iff, decide_eq_true_iff, Bool.and_eq_true, Bool.and_eq_true, decide_eq_true_iff,
    member_row_isSome, Shown]
  tauto

theorem mem_query_iff (m : EnvironmentGroupMember) :
    (∃ r ∈ _member_query db t, r.member = m) ↔ m ∈ db.members ∧ Shown db t m := by
  have hmap := member_query_map db t fun _ => true
  simp only [List.filter_true, true_and] at hmap
  rw [← List.mem_map, hmap, Table.mem_select, decide_eq_true_eq]

/-- The condition of the count and of the expansion, for a group that is found. -/
theorem select_shown {g : EnvironmentGroup} (h : live_group db group_id t = some g) :
    (db.members.select fun m => (live_environment db m.environment_id t).isSome ∧
      m.group_id = group_id ∧ m.tenant_id = t ∧ m.deleted_at = none) =
      db.members.select fun m => m.group_id = group_id ∧ Shown db t m := by
  refine List.filter_congr fun m _ => ?_
  rw [decide_eq_decide]
  unfold Shown
  constructor
  · rintro ⟨henv, hgroup, hrest⟩
    exact ⟨hgroup, by rw [hgroup, h]; rfl, henv, hrest⟩
  · rintro ⟨hgroup, -, henv, hrest⟩
    exact ⟨henv, hgroup, hrest⟩

/-- **The list, the count and the expansion of one group** are of the same memberships. -/
theorem members_of_group (ext : External) {g : EnvironmentGroup}
    (h : live_group db group_id t = some g) : ∃ rows,
      list_members ext db group_id t none = .ok (rows, rows.length) ∧
      _member_count_clause db t group_id = rows.length ∧
      (live_member_ids db group_id t).Perm (rows.map fun r => r.member.environment_id) ∧
      ∀ r, r ∈ rows ↔ r ∈ _member_query db t ∧ r.member.group_id = group_id := by
  have hmap := member_query_map db t fun m => decide (m.group_id = group_id)
  simp only [decide_eq_true_eq] at hmap
  let rows := (_member_query db t).filter fun r => r.member.group_id = group_id
  let key := fun r : MemberRow => toLex (ext.sql_lower r.environment_name, r.member.id)
  have hperm : (order_by key rows).Perm rows := List.perm_insertionSort _ rows
  have hselect := (select_shown h).trans hmap.symm
  refine ⟨order_by key rows, ?_, ?_, ?_, fun r => ?_⟩
  · unfold list_members get_group
    rw [h]
    rfl
  · rw [_member_count_clause, hselect, List.length_map, hperm.length_eq]
  · rw [live_member_ids, hselect, List.map_map]
    exact (hperm.map _).symm
  · rw [hperm.mem_iff, List.mem_filter, decide_eq_true_eq]

theorem groups_of_environment (ext : External) {e : Environment}
    (h : live_environment db environment_id t = some e) : ∃ rows,
      list_groups_for_environment ext db environment_id t none = .ok (rows, rows.length) ∧
      ∀ r, r ∈ rows ↔ r ∈ _member_query db t ∧ r.member.environment_id = environment_id := by
  unfold list_groups_for_environment
  rw [h]
  exact ⟨_, rfl, fun r => by rw [mem_order_by, List.mem_filter, decide_eq_true_eq]⟩

/-! ## What the tables keep -/

/-- Two live memberships of one environment in one group. -/
def twins (a b : EnvironmentGroupMember) : Prop :=
  a.deleted_at = none ∧ b.deleted_at = none ∧ a.tenant_id = b.tenant_id ∧
    a.group_id = b.group_id ∧ a.environment_id = b.environment_id

theorem twins_symm {a b : EnvironmentGroupMember} (h : twins a b) : twins b a :=
  ⟨h.2.1, h.1, h.2.2.1.symm, h.2.2.2.1.symm, h.2.2.2.2.symm⟩

/-- A live membership is the only one, and of a live group. -/
structure Sound (db : Db) : Prop where
  distinct : ∀ a ∈ db.members, ∀ b ∈ db.members, twins a b → a = b
  housed : ∀ m ∈ db.members, m.deleted_at = none → (live_group db m.group_id m.tenant_id).isSome

theorem live_group_isSome : (live_group db group_id t).isSome ↔
    ∃ g ∈ db.groups, g.id = group_id ∧ g.tenant_id = t ∧ g.deleted_at = none := by
  rw [Option.isSome_iff_exists]
  exact exists_congr fun g => live_group_iff

theorem Sound.members_deleted (h : Sound db) (p : EnvironmentGroupMember → Bool) (now : DateTime) :
    Sound { db with members := db.members.update p (member_deleted now) } where
  distinct := by
    refine Table.unique_update (fun a b htwins => ?_) h.distinct
    -- a row that was changed is not live
    by_cases ha : p a = true
    · rw [if_pos ha] at htwins
      cases htwins.1
    · by_cases hb : p b = true
      · rw [if_pos hb] at htwins
        cases htwins.2.1
      · rwa [if_neg ha, if_neg hb] at htwins
  housed m hm hlive := by
    rcases Table.mem_update_cases hm with ⟨m₀, -, -, rfl⟩ | ⟨hm, -⟩
    · cases hlive
    · exact h.housed m hm hlive

/-- Groups that are there still, live where a live membership needs them. -/
theorem Sound.groups_changed {db' : Db} (h : Sound db) (hmembers : db'.members = db.members)
    (hgroups : ∀ g ∈ db.groups, g.deleted_at = none → (∃ m ∈ db.members, m.deleted_at = none ∧
      m.group_id = g.id ∧ m.tenant_id = g.tenant_id) → ∃ g' ∈ db'.groups,
        g'.id = g.id ∧ g'.tenant_id = g.tenant_id ∧ g'.deleted_at = none) : Sound db' where
  distinct := by
    rw [hmembers]
    exact h.distinct
  housed m hm hlive := by
    rw [hmembers] at hm
    obtain ⟨g, hg, hid, htenant, hg_live⟩ := live_group_isSome.1 (h.housed m hm hlive)
    obtain ⟨g', hg', hid', htenant', hlive'⟩ :=
      hgroups g hg hg_live ⟨m, hm, hlive, hid.symm, htenant.symm⟩
    exact live_group_isSome.2 ⟨g', hg', hid'.trans hid, htenant'.trans htenant, hlive'⟩

theorem sound_delete_group {now : DateTime} {db' : Db} (h : Sound db)
    (hdelete : delete_group db group_id t now = .ok db') : Sound db' := by
  obtain ⟨group, hgroup, hdb⟩ := bind_eq_ok.1 hdelete
  obtain ⟨hmem, hid, htenant, -⟩ := get_group_ok hgroup
  cases hdb
  refine (h.members_deleted _ now).groups_changed rfl fun g hg hlive ⟨m, hm, hm_live, hmg, hmt⟩ => ?_
  -- a group that has a live membership left is another one
  have hne : g.id ≠ group.id := fun hsame => by
    obtain rfl := Table.eq_of_key_eq hg hmem hsame
    rcases Table.mem_update_cases hm with ⟨m₀, -, -, rfl⟩ | ⟨-, hp⟩
    · cases hm_live
    · exact of_decide_eq_false hp ⟨hmg.trans hid, hmt.trans htenant, hm_live⟩
  exact ⟨g, Table.mem_update_of_neg hg (decide_eq_false hne), rfl, rfl, hlive⟩

theorem sound_add_member {db' : Db} (h : Sound db)
    (hadd : add_member db group_id environment_id t = .ok db') : Sound db' := by
  obtain ⟨group, hgroup, hadd⟩ := bind_eq_ok.1 hadd
  obtain ⟨env, -, hadd⟩ := bind_eq_ok.1 hadd
  obtain ⟨_, hfree, hdb⟩ := bind_eq_ok.1 hadd
  cases hdb
  refine ⟨Table.unique_insert twins_symm h.distinct fun a ha htwins => ?_, fun m hm hlive => ?_⟩
  · obtain ⟨hlive, -, htenant, hg, he⟩ := htwins
    exact raise_if_eq_ok.1 hfree ⟨a, ha, htenant, hg, he, hlive⟩
  · rcases Table.mem_insert.1 hm with hm | rfl
    · exact h.housed m hm hlive
    · exact live_group_isSome.2 ⟨group, get_group_ok hgroup⟩

/-- **What one request keeps.** -/
theorem sound_handle {request : Request} {db' : Db} (h : Sound db)
    (hhandle : handle ext db request = .ok db') : Sound db' := by
  unfold handle at hhandle
  cases request with
  | create user data now =>
    obtain ⟨_, -, hcreate⟩ := bind_eq_ok.1 hhandle
    obtain ⟨_, -, hcreate⟩ := bind_eq_ok.1 hcreate
    obtain ⟨_, -, hdb⟩ := bind_eq_ok.1 hcreate
    cases hdb
    exact h.groups_changed rfl fun g hg hlive _ =>
      ⟨g, Table.mem_insert.2 (Or.inl hg), rfl, rfl, hlive⟩
  | update user group_id data =>
    obtain ⟨_, -, hupdate⟩ := bind_eq_ok.1 hhandle
    obtain ⟨group, -, hupdate⟩ := bind_eq_ok.1 hupdate
    obtain ⟨_, -, hupdate⟩ := bind_eq_ok.1 hupdate
    obtain ⟨_, -, hdb⟩ := bind_eq_ok.1 hupdate
    cases hdb
    refine h.groups_changed rfl fun g hg hlive _ => ?_
    by_cases hsame : g.id = group.id
    · exact ⟨_, Table.mem_update_of_pos hg (decide_eq_true hsame), rfl, rfl, hlive⟩
    · exact ⟨g, Table.mem_update_of_neg hg (decide_eq_false hsame), rfl, rfl, hlive⟩
  | delete user group_id now =>
    obtain ⟨_, -, hdelete⟩ := bind_eq_ok.1 hhandle
    exact sound_delete_group h hdelete
  | add_member user group_id environment_id =>
    obtain ⟨_, -, hadd⟩ := bind_eq_ok.1 hhandle
    exact sound_add_member h hadd
  | remove_member user group_id member_id now =>
    obtain ⟨_, -, hremove⟩ := bind_eq_ok.1 hhandle
    obtain ⟨_, -, hremove⟩ := bind_eq_ok.1 hremove
    obtain ⟨member, -, hdb⟩ := bind_eq_ok.1 hremove
    cases hdb
    exact h.members_deleted _ now
  | environments environments =>
    cases hhandle
    exact ⟨h.distinct, h.housed⟩

theorem sound_run (ext : External) (requests : List Request) :
    Sound (run (step ext) Db.fresh requests) := by
  have hstep : ∀ (db : Db) request, Sound db → Sound (step ext db request) :=
    fun db request h => commit_or_rollback_keeps h fun _ hhandle => sound_handle h hhandle
  have hfresh : Sound Db.fresh :=
    ⟨fun a ha => absurd ha (Table.not_mem_empty a), fun m hm => absurd hm (Table.not_mem_empty m)⟩
  exact Runs.run_inv hstep hfresh requests

/-! ## The four queries agree -/

/-- What a tenant is told of its groups and their members. -/
structure Agree (ext : External) (db : Db) (t : ℕ) : Prop where
  /-- The count of a group is the number of its listed members, which are what it is booked as. -/
  counted : ∀ view ∈ _view_query db t, ∃ rows,
    list_members ext db view.group.id t none = .ok (rows, rows.length) ∧
      view.member_count = rows.length ∧
      (live_member_ids db view.group.id t).Perm (rows.map fun r => r.member.environment_id)
  once : ∀ group_id, (live_member_ids db group_id t).Nodup
  /-- A group that is not shown is booked as nothing. -/
  gone : ∀ group_id, live_group db group_id t = none → live_member_ids db group_id t = []
  /-- An environment lists the groups that are booked as it, among others. -/
  both_ways : ∀ environment_id e, live_environment db environment_id t = some e → ∃ rows,
    list_groups_for_environment ext db environment_id t none = .ok (rows, rows.length) ∧
      ∀ group_id, environment_id ∈ live_member_ids db group_id t ↔
        ∃ r ∈ rows, r.member.group_id = group_id

theorem mem_live_member_ids :
    environment_id ∈ live_member_ids db group_id t ↔ ∃ m ∈ db.members,
      (live_environment db m.environment_id t).isSome ∧ m.group_id = group_id ∧ m.tenant_id = t ∧
        m.deleted_at = none ∧ m.environment_id = environment_id := by
  simp only [live_member_ids, List.mem_map, Table.mem_select, decide_eq_true_eq, and_assoc]

theorem Sound.agree (h : Sound db) : Agree ext db t where
  counted view hview := by
    obtain ⟨g, hg, rfl⟩ := List.mem_map.1 hview
    rw [Table.mem_select, decide_eq_true_eq] at hg
    have hlive : live_group db g.id t = some g := live_group_iff.2 ⟨hg.1, rfl, hg.2⟩
    obtain ⟨rows, hlist, hcount, hids, -⟩ := members_of_group ext hlive
    exact ⟨rows, hlist, hcount, hids⟩
  once group_id := by
    refine List.Nodup.map_on (fun a ha b hb hab => ?_) (db.members.rows_nodup.filter _)
    obtain ⟨ha, -, hga, hta, hla⟩ := by simpa using ha
    obtain ⟨hb, -, hgb, htb, hlb⟩ := by simpa using hb
    exact h.distinct a ha b hb ⟨hla, hlb, hta.trans htb.symm, hga.trans hgb.symm, hab⟩
  gone group_id hnone := by
    refine List.eq_nil_iff_forall_not_mem.2 fun e he => ?_
    obtain ⟨m, hm, -, hgroup, htenant, hlive, -⟩ := mem_live_member_ids.1 he
    have hhoused := h.housed m hm hlive
    rw [hgroup, htenant, hnone] at hhoused
    cases hhoused
  both_ways environment_id e he := by
    obtain ⟨rows, hlist, hrows⟩ := groups_of_environment ext he
    refine ⟨rows, hlist, fun group_id => ?_⟩
    rw [mem_live_member_ids]
    constructor
    · rintro ⟨m, hm, henv, rfl, rfl, hlive, rfl⟩
      obtain ⟨r, hr, rfl⟩ := (mem_query_iff m).2 ⟨hm, h.housed m hm hlive, henv, rfl, hlive⟩
      exact ⟨r, (hrows r).2 ⟨hr, rfl⟩, rfl⟩
    · rintro ⟨r, hr, rfl⟩
      obtain ⟨hquery, henv⟩ := (hrows r).1 hr
      obtain ⟨hm, -, hshown⟩ := (mem_query_iff r.member).1 ⟨r, hquery, rfl⟩
      exact ⟨r.member, hm, hshown.1, rfl, hshown.2.1, hshown.2.2, henv⟩

/-- **The four queries agree in every state**: whatever is requested, in whatever order, and
whatever becomes of the environments. -/
theorem members_agree (ext : External) (requests : List Request) (t : ℕ) :
    Agree ext (run (step ext) Db.fresh requests) t :=
  (sound_run ext requests).agree

/-! ## Names -/

def SameName (ext : External) (a b : EnvironmentGroup) : Prop :=
  a.deleted_at = none ∧ b.deleted_at = none ∧ a.tenant_id = b.tenant_id ∧
    ext.sql_lower a.name = ext.sql_lower b.name

/-- No two live groups of a tenant have one name, as the database folds it. -/
structure Named (ext : External) (db : Db) : Prop where
  folded : ∀ g ∈ db.groups, ext.sql_lower g.name = ext.lower g.name
  unique : ∀ a ∈ db.groups, ∀ b ∈ db.groups, SameName ext a b → a = b

/-- The names that are sent, which Python and the database fold alike. -/
def Folds (ext : External) : Request → Prop
  | .create _ data _ => ext.sql_lower (strip data.name) = ext.lower (strip data.name)
  | .update _ _ data => ∀ name ∈ data.name, ext.sql_lower (strip name) = ext.lower (strip name)
  | _ => True

theorem assert_name_free_ok {name : String} {exclude_id : Option ℕ} {g : EnvironmentGroup}
    (h : _assert_name_free ext db t name exclude_id = .ok ()) (hg : g ∈ db.groups)
    (htenant : g.tenant_id = t) (hlive : g.deleted_at = none)
    (hname : ext.sql_lower g.name = ext.lower (strip name)) : some g.id = exclude_id := by
  by_contra hne
  exact raise_if_eq_ok.1 h ⟨g, hg, htenant, hlive, hname, hne⟩

theorem named_update {data : EnvironmentGroupUpdate} {group : EnvironmentGroup} (h : Named ext db)
    (hgroup : group ∈ db.groups) (hlive : group.deleted_at = none)
    (hfold : ∀ name ∈ data.name, ext.sql_lower (strip name) = ext.lower (strip name))
    (hfree : assert_rename_free ext db group group.tenant_id data.name = .ok ()) :
    Named ext { db with groups := db.groups.update (fun g => g.id = group.id) data.edit } where
  folded g hg := by
    rcases Table.mem_update_cases hg with ⟨g₀, hg₀, -, rfl⟩ | ⟨hg, -⟩
    · unfold EnvironmentGroupUpdate.edit
      cases hname : data.name with
      | none => exact h.folded g₀ hg₀
      | some name => exact hfold name hname
    · exact h.folded g hg
  unique := by
    refine (Table.unique_update_iff (fun hab => ⟨hab.2.1, hab.1, hab.2.2.1.symm, hab.2.2.2.symm⟩)
      h.unique hgroup fun a ha => ?_).2 fun a ha hsame => ?_
    · exact ⟨fun heq => Table.eq_of_key_eq ha hgroup (of_decide_eq_true heq),
        fun heq => decide_eq_true (by rw [heq])⟩
    · obtain ⟨ha_live, -, htenant, hname⟩ := hsame
      cases hsent : data.name with
      | none =>
        simp only [EnvironmentGroupUpdate.edit, hsent, Option.map_none, Option.getD_none] at hname
        exact h.unique a ha group hgroup ⟨ha_live, hlive, htenant, hname⟩
      | some name =>
        have hnew := hfold name hsent
        simp only [EnvironmentGroupUpdate.edit, hsent, Option.map_some, Option.getD_some] at hname
        rw [hsent, assert_rename_free] at hfree
        split at hfree
        · have hid := assert_name_free_ok hfree ha htenant ha_live (hname.trans hnew)
          exact Table.eq_of_key_eq ha hgroup (Option.some.inj hid)
        · next hcase =>
          -- only the case changes, and the database does not see it
          have hold : ext.sql_lower a.name = ext.sql_lower group.name := by
            rw [hname, hnew, h.folded group hgroup, not_not.1 hcase]
          exact h.unique a ha group hgroup ⟨ha_live, hlive, htenant, hold⟩

/-- The name of a new group was looked for under the spelling that the database folds it to. -/
theorem named_create {data : EnvironmentGroupCreate} {now : DateTime} {db' : Db}
    (h : Named ext db) (hfold : ext.sql_lower (strip data.name) = ext.lower (strip data.name))
    (hcreate : create_group ext db data t now = .ok db') : Named ext db' := by
  obtain ⟨_, hfree, hcreate⟩ := bind_eq_ok.1 hcreate
  obtain ⟨_, -, hdb⟩ := bind_eq_ok.1 hcreate
  cases hdb
  refine ⟨(Table.forall_insert_iff h.folded).2 hfold, Table.unique_insert
    (fun hab => ⟨hab.2.1, hab.1, hab.2.2.1.symm, hab.2.2.2.symm⟩) h.unique fun a ha hsame => ?_⟩
  obtain ⟨hlive, -, htenant, hname⟩ := hsame
  cases assert_name_free_ok hfree ha htenant hlive (hname.trans hfold)

/-- A group that was deleted has no name to share. -/
theorem named_delete {now : DateTime} {db' : Db} (h : Named ext db)
    (hdelete : delete_group db group_id t now = .ok db') : Named ext db' := by
  obtain ⟨group, -, hdb⟩ := bind_eq_ok.1 hdelete
  cases hdb
  refine ⟨(Table.forall_update_iff h.folded).2 fun g hg _ => h.folded g hg,
    Table.unique_update (fun a b hsame => ?_) h.unique⟩
  obtain ⟨ha, hb, hrest⟩ := hsame
  split at ha
  · cases ha
  · split at hb
    · cases hb
    · next hpa hpb =>
      rw [if_neg hpa, if_neg hpb] at hrest
      exact ⟨ha, hb, hrest⟩

/-- Only the first three requests write groups. -/
theorem named_handle {request : Request} {db' : Db} (h : Named ext db) (hfold : Folds ext request)
    (hhandle : handle ext db request = .ok db') : Named ext db' := by
  unfold handle at hhandle
  cases request with
  | create user data now =>
    obtain ⟨_, -, hcreate⟩ := bind_eq_ok.1 hhandle
    exact named_create h hfold hcreate
  | update user group_id data =>
    obtain ⟨_, -, hupdate⟩ := bind_eq_ok.1 hhandle
    obtain ⟨group, hgroup, hupdate⟩ := bind_eq_ok.1 hupdate
    obtain ⟨_, hfree, hupdate⟩ := bind_eq_ok.1 hupdate
    obtain ⟨_, -, hdb⟩ := bind_eq_ok.1 hupdate
    cases hdb
    obtain ⟨hmem, -, htenant, hlive⟩ := get_group_ok hgroup
    exact named_update h hmem hlive hfold (htenant ▸ hfree)
  | delete user group_id now =>
    obtain ⟨_, -, hdelete⟩ := bind_eq_ok.1 hhandle
    exact named_delete h hdelete
  | add_member user group_id environment_id =>
    obtain ⟨_, -, hadd⟩ := bind_eq_ok.1 hhandle
    obtain ⟨_, -, hadd⟩ := bind_eq_ok.1 hadd
    obtain ⟨_, -, hadd⟩ := bind_eq_ok.1 hadd
    obtain ⟨_, -, hdb⟩ := bind_eq_ok.1 hadd
    cases hdb
    exact ⟨h.folded, h.unique⟩
  | remove_member user group_id member_id now =>
    obtain ⟨_, -, hremove⟩ := bind_eq_ok.1 hhandle
    obtain ⟨_, -, hremove⟩ := bind_eq_ok.1 hremove
    obtain ⟨_, -, hdb⟩ := bind_eq_ok.1 hremove
    cases hdb
    exact ⟨h.folded, h.unique⟩
  | environments environments =>
    cases hhandle
    exact ⟨h.folded, h.unique⟩

/-- **Names stay unique**, as long as Python and the database fold those that are sent alike. -/
theorem names_unique {requests : List Request}
    (h : Along (step ext) (fun _ request => Folds ext request) Db.fresh requests) :
    let db := run (step ext) Db.fresh requests
    ∀ a ∈ db.groups, ∀ b ∈ db.groups, SameName ext a b → a = b := by
  have hstep : ∀ (db : Db) request, Named ext db → Folds ext request →
      Named ext (step ext db request) := fun db request h hfold =>
    commit_or_rollback_keeps h fun _ hhandle => named_handle h hfold hhandle
  have hfresh : Named ext Db.fresh :=
    ⟨fun g hg => absurd hg (Table.not_mem_empty g), fun a ha => absurd ha (Table.not_mem_empty a)⟩
  exact (Runs.run_inv_along hstep hfresh h).unique

/-- A database that folds as Python does, and patterns without wildcards. -/
def ascii : External :=
  ⟨String.toLower, String.toLower, fun name pattern => name.toLower = pattern.toLower⟩

def two_groups : List Request :=
  [.create ⟨7, 1, Role.ADMIN, false⟩ ⟨" Payments", none, true⟩ 0,
    .create ⟨7, 1, Role.ADMIN, false⟩ ⟨"payments", none, true⟩ 1,
    .create ⟨7, 1, Role.ADMIN, false⟩ ⟨"orders", none, true⟩ 2]

theorem names_unique_two_groups : let db := run (step ascii) Db.fresh two_groups
    ∀ a ∈ db.groups, ∀ b ∈ db.groups, SameName ascii a b → a = b :=
  names_unique ⟨rfl, rfl, rfl, trivial⟩

/-! ## The list of groups, page by page -/

theorem mem_group_rows {search : Option String} {is_active : Option Bool} {v : GroupView}
    (h : v ∈ group_rows ext db t search is_active) :
    v.group ∈ db.groups ∧ v = ⟨v.group, _member_count_clause db t v.group.id⟩ := by
  obtain ⟨g, hg, rfl⟩ := List.mem_map.1 (List.mem_filter.1 h).1
  exact ⟨(Table.mem_select.1 hg).1, rfl⟩

/-- The id at the end of the order tells any two groups apart. -/
theorem id_separates (search : Option String) (is_active : Option Bool) :
    Separates (.by_key fun v => v.group.id) (group_rows ext db t search is_active) := by
  intro a ha b hb hab hba
  obtain ⟨hga, hva⟩ := mem_group_rows ha
  obtain ⟨hgb, hvb⟩ := mem_group_rows hb
  rw [hva, hvb, Table.eq_of_key_eq hga hgb (Nat.le_antisymm hab hba)]

/-- **A client that goes through the pages of the list has every group once**, by whichever sort and
under whichever filters, though every page is a query of its own; and every page tells how many
groups there are. -/
theorem walk_groups (ext : External) (db : Db) (t : ℕ) (search : Option String)
    (is_active : Option Bool) (sort : Option (ListSort GroupView)) {answers : ℕ → List GroupView}
    (h : ∀ i, Answers (group_order ext sort) (group_rows ext db t search is_active) (answers i))
    {limit n : ℕ} (hn : (group_rows ext db t search is_active).length ≤ n * limit) :
    Answers (group_order ext sort) (group_rows ext db t search is_active)
        ((pages answers limit n).flatMap Prod.fst) ∧
      ∀ page ∈ pages answers limit n,
        page.2 = (group_rows ext db t search is_active).length :=
  walk_pages ext.sql_lower sort (List.mem_cons_of_mem _ List.mem_cons_self)
    (id_separates search is_active) h hn

theorem walk_groups_two_groups :
    let rows := group_rows ascii (run (step ascii) Db.fresh two_groups) 1 none none
    ∃ answers : ℕ → List GroupView, (∀ i, Answers (group_order ascii none) rows (answers i)) ∧
      Answers (group_order ascii none) rows ((pages answers 1 rows.length).flatMap Prod.fst) ∧
      ∀ page ∈ pages answers 1 rows.length, page.2 = rows.length := by
  obtain ⟨answer, h⟩ := Paging.exists_answers (group_order ascii none)
    (group_rows ascii (run (step ascii) Db.fresh two_groups) 1 none none)
  exact ⟨fun _ => answer, fun _ => h,
    walk_groups ascii _ 1 none none none (fun _ => h) (Nat.mul_one _).ge⟩

end EnvMgr.Groups
