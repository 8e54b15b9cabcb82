/-
The links between RAID items and scope items.

A link is refused unless the two rows are in one release. Which release a scope item is in
is changed by two other services, which do not look at the links: `move_change` takes an
item elsewhere, and `delete_release` returns the items of a release to the backlog while
its RAID items stay.
-/
import EnvMgr.Raid.Transitions
import EnvMgr.Scope.Logged

namespace EnvMgr.Raid.ScopeLinks

open Lifecycle (scalar_one_or_none scalar_one_or_none_ok)
open Runs
open Scope (External ReleaseChange)

variable {scope scope' : Scope.Db} {request : Scope.Request}
variable {item_id tenant_id release_id release_change_id : ℕ} {user : CurrentUser}
  {to_release_id : Option ℕ}

/-! ## Tables -/

structure RaidItemScopeLink where
  id : ℕ
  tenant_id : ℕ
  raid_item_id : ℕ
  release_change_id : ℕ
  deriving DecidableEq

structure Db where
  raid : Raid.Db
  scope : Scope.Db
  links : Table RaidItemScopeLink RaidItemScopeLink.id

/-- The two services read one table of releases. -/
def Db.with_scope (db : Db) (scope : Scope.Db) : Db :=
  { db with
    scope := scope
    raid :=
      { db.raid with
        reference := { db.raid.reference with releases := scope.reference.releases } } }

def Db.opened (reference : Scope.Reference) (users : List User)
    (release_dependencies : List ReleaseDependency) : Db where
  raid := Raid.Db.opened ⟨reference.releases, users, release_dependencies⟩
  scope := Scope.Db.opened reference
  links := Table.empty

/-! ## The service -/

def scope_link (tenant_id raid_item_id release_change_id : ℕ) :
    Table.New RaidItemScopeLink.id where
  row id := ⟨id, tenant_id, raid_item_id, release_change_id⟩
  key_row _ := rfl

def add_scope_link (db : Db) (release_id item_id release_change_id tenant_id : ℕ) :
    Except Raised Db := do
  let item ← _get_item db.raid item_id tenant_id
  raise_if (item.release_id ≠ release_id) (http 404 "RAID item not found")
  let rc ← get_or_raise
    (db.scope.changes.select_one fun c =>
      c.id = release_change_id ∧ c.tenant_id = tenant_id ∧ c.deleted_at = none)
    (http 400 "release_change_id must be a scope item in this tenant")
  raise_if (rc.release_id ≠ some release_id) (http 400 "scope item belongs to a different release")
  let existing ← scalar_one_or_none (db.links.select fun l =>
    l.raid_item_id = item_id ∧ l.release_change_id = release_change_id)
  match existing with
  | some _ => .ok db
  | none => .ok { db with
      links := db.links.insert (scope_link tenant_id item_id release_change_id) }

def remove_scope_link (db : Db) (item_id release_change_id tenant_id : ℕ) : Except Raised Db := do
  let _ ← _get_item db.raid item_id tenant_id
  let link ← scalar_one_or_none (db.links.select fun l =>
    l.raid_item_id = item_id ∧ l.release_change_id = release_change_id ∧ l.tenant_id = tenant_id)
  match link with
  | some link => .ok { db with links := db.links.delete fun l => l.id = link.id }
  | none => .ok db

/-! ## Requests -/

/-- The requests of the two services, and those for the links. -/
inductive Request
  | raid (call : Call)
  | scope (request : Scope.Request)
  | add_raid_scope_link (current_user : CurrentUser)
      (release_id item_id release_change_id : ℕ)
  | remove_raid_scope_link (current_user : CurrentUser)
      (release_id item_id release_change_id : ℕ)

def handle (ext : External) (db : Db) : Request → Except Raised Db
  | .raid call => do
    let raid ← Raid.handle db.raid call
    .ok { db with raid := raid }
  | .scope request => do
    let scope ← Scope.handle ext db.scope request
    .ok (db.with_scope scope)
  | .add_raid_scope_link user release_id item_id release_change_id => do
    require_role Role.ADMIN user
    let _ ← get_release db.raid.reference.releases release_id user.active_tenant_id
    add_scope_link db release_id item_id release_change_id user.active_tenant_id
  | .remove_raid_scope_link user release_id item_id release_change_id => do
    require_role Role.ADMIN user
    let _ ← get_release db.raid.reference.releases release_id user.active_tenant_id
    remove_scope_link db item_id release_change_id user.active_tenant_id

def step (ext : External) (db : Db) (request : Request) : Db :=
  commit_or_rollback db (handle ext db request)

def Accepted (ext : External) (db : Db) (request : Request) : Prop :=
  ∃ db', handle ext db request = .ok db'

/-! ## The property -/

/-- The link joins the two rows, and both are live. -/
def Joins (link : RaidItemScopeLink) (item : RaidItem) (c : ReleaseChange) : Prop :=
  item.id = link.raid_item_id ∧ c.id = link.release_change_id ∧
    item.deleted_at = none ∧ c.deleted_at = none
  deriving Decidable

/-- The rows that a link joins are in one release. -/
def LinksInside (db : Db) : Prop :=
  ∀ link ∈ db.links, ∀ item ∈ db.raid.items, ∀ c ∈ db.scope.changes, Joins link item c →
    c.release_id = some item.release_id

/-- The scope item is linked to a live RAID item. -/
def Linked (db : Db) (c : ReleaseChange) : Prop :=
  ∃ link ∈ db.links, ∃ item ∈ db.raid.items, Joins link item c

/-- The request moves a linked item to another release or to the backlog, or deletes the
release of one. -/
def PullsApart (db : Db) : Request → Prop
  | .scope (.move_change _ change_id to_release_id) =>
    ∃ c ∈ db.scope.changes, c.id = change_id ∧ Linked db c ∧ c.release_id ≠ to_release_id
  | .scope (.delete_release user release_id _) =>
    ∃ c ∈ db.scope.changes, c.release_id = some release_id ∧ c.tenant_id = user.active_tenant_id ∧
      Linked db c
  | _ => False

/-! ## What a request leaves in place -/

/-- Still in its release, and live only if it was. -/
def StaysIn (a b : RaidItem) : Prop :=
  b.release_id = a.release_id ∧ (b.deleted_at = none → a.deleted_at = none)

def ChangeStaysIn (a b : ReleaseChange) : Prop :=
  b.release_id = a.release_id ∧ (b.deleted_at = none → a.deleted_at = none)

theorem StaysIn.refl (item : RaidItem) : StaysIn item item := ⟨rfl, id⟩

theorem ChangeStaysIn.refl (c : ReleaseChange) : ChangeStaysIn c c := ⟨rfl, id⟩

/-- No request moves a RAID item. -/
theorem descends_items {db db' : Raid.Db} {call : Call} (h : Writes db call db') :
    Table.Descends StaysIn db.items db'.items := by
  cases h with
  | created => exact Table.descends_insert StaysIn.refl _ _
  | updated => exact Table.descends_update StaysIn.refl _ _ fun _ _ _ => ⟨rfl, id⟩
  | deleted => exact Table.descends_update StaysIn.refl _ _ fun _ _ _ => ⟨rfl, fun hlive => absurd hlive (Option.some_ne_none _)⟩
  | @promoted source target_type seq user_id hsource hrisk =>
    unfold promoted
    split_ifs
    · refine (Table.descends_insert StaysIn.refl db.items _).trans
        (Table.descends_update StaysIn.refl _ _ fun _ _ _ => ⟨rfl, id⟩) ?_
      rintro a b c ⟨hab, hlive⟩ ⟨hbc, hlive'⟩
      exact ⟨hbc.trans hab, fun h => hlive (hlive' h)⟩
    · exact Table.descends_insert StaysIn.refl _ _

/-- The requests that move scope items. -/
def Moves : Scope.Request → Prop
  | .move_change _ _ _ => True
  | .delete_release _ _ _ => True
  | _ => False

/-- The others leave every scope item in its release. -/
theorem descends_changes {ext : External} (hconstraints : Scope.Constraints scope.changes)
    (hstays : ¬ Moves request) (hok : Scope.handle ext scope request = .ok scope') :
    Table.Descends ChangeStaysIn scope.changes scope'.changes := by
  cases request with
  | create_change user release_id data =>
    simp only [Scope.handle, Scope.create_change, bind_eq_ok, Except.ok.injEq] at hok
    obtain ⟨_, -, _, -, _, -, changes, hadd, rfl⟩ := hok
    obtain ⟨-, -, rfl⟩ := Scope.add_change_ok.1 hadd
    exact Table.descends_insert ChangeStaysIn.refl _ _
  | update_change user change_id data =>
    simp only [Scope.handle, Scope.update_change, bind_eq_ok, Except.ok.injEq] at hok
    obtain ⟨change, -, _, -, _, -, _, -, _, -, changes, hset, _, -, rfl⟩ := hok
    obtain ⟨-, -, rfl⟩ := Scope.set_change_ok.1 hset
    exact Table.descends_update ChangeStaysIn.refl _ _ fun _ _ _ => ⟨rfl, id⟩
  | move_change user change_id to_release_id => exact absurd trivial hstays
  | delete_change user change_id now =>
    simp only [Scope.handle, Scope.delete_change, bind_eq_ok, Except.ok.injEq] at hok
    obtain ⟨change, -, _, -, changes, hset, rfl⟩ := hok
    obtain ⟨-, -, rfl⟩ := Scope.set_change_ok.1 hset
    exact Table.descends_update ChangeStaysIn.refl _ _ fun _ _ _ => ⟨rfl, fun hlive => absurd hlive (Option.some_ne_none _)⟩
  | delete_release user release_id now => exact absurd trivial hstays
  | import_scope user release_id file =>
    simp only [Scope.handle, bind_eq_ok, Prod.exists, Except.ok.injEq] at hok
    obtain ⟨_, -, scope₁, result, himport, rfl⟩ := hok
    obtain ⟨news, hstore⟩ := Scope.History.import_stores himport
    have hpassed := Scope.passed_of_store hconstraints hstore
    refine ⟨hpassed.next, fun c' hc' => ?_⟩
    rcases hpassed.origin c' hc' with ⟨c, hc, rfl⟩ | ⟨hid, -⟩
    · refine Or.inl ⟨c, hc, Scope.touched_keeps.1.symm, Scope.touched_keeps.2, fun hlive => ?_⟩
      rwa [Scope.touched_deleted_at] at hlive
    · exact Or.inr hid
  | others reference =>
    simp only [Scope.handle, Except.ok.injEq] at hok
    rw [← hok]
    exact Table.descends_refl ChangeStaysIn.refl _

/-! ## What is true at any time -/

/-- A link is between rows that were there when it was made. -/
structure Valid (db : Db) : Prop where
  constraints : Scope.Constraints db.scope.changes
  items : ∀ link ∈ db.links, link.raid_item_id < db.raid.items.next
  changes : ∀ link ∈ db.links, link.release_change_id < db.scope.changes.next

/-- The link joins two rows of one release. -/
def Made (db : Db) (link : RaidItemScopeLink) : Prop :=
  ∃ item ∈ db.raid.items, ∃ c ∈ db.scope.changes, link.raid_item_id = item.id ∧
    link.release_change_id = c.id ∧ c.release_id = some item.release_id

theorem add_scope_link_made {db db' : Db}
    (hok : add_scope_link db release_id item_id release_change_id tenant_id = .ok db') :
    ∃ links, db' = { db with links := links } ∧
      ∀ link ∈ links, link ∈ db.links ∨ Made db link := by
  simp only [add_scope_link, bind_eq_ok, raise_if_eq_ok, get_or_raise_eq_ok, _get_item_ok,
    not_not] at hok
  obtain ⟨item, ⟨hitem, hid, -⟩, _, hrelease, rc, hrc, _, hsame, existing, -, hok⟩ := hok
  obtain ⟨hchange, hmatch⟩ := Table.select_one_some hrc
  have hmatch := of_decide_eq_true hmatch
  cases existing with
  | some link => exact ⟨db.links, (Except.ok.inj hok).symm, fun link hlink => Or.inl hlink⟩
  | none =>
    refine ⟨_, (Except.ok.inj hok).symm, fun link hlink => ?_⟩
    rcases Table.mem_insert.1 hlink with hlink | rfl
    · exact Or.inl hlink
    · refine Or.inr ⟨item, hitem, rc, hchange, hid.symm, hmatch.1.symm, ?_⟩
      rw [hsame, hrelease]

theorem remove_scope_link_kept {db db' : Db}
    (hok : remove_scope_link db item_id release_change_id tenant_id = .ok db') :
    ∃ links, db' = { db with links := links } ∧ ∀ link ∈ links, link ∈ db.links := by
  simp only [remove_scope_link, bind_eq_ok] at hok
  obtain ⟨_, -, link, -, hok⟩ := hok
  cases link with
  | some link =>
    exact ⟨_, (Except.ok.inj hok).symm, fun link hlink => (Table.mem_delete.1 hlink).1⟩
  | none => exact ⟨db.links, (Except.ok.inj hok).symm, fun link hlink => hlink⟩

/-- What an accepted request does. -/
inductive Effect (ext : External) (db : Db) : Request → Db → Prop
  | raid {call : Call} {raid : Raid.Db} (hok : Raid.handle db.raid call = .ok raid) :
      Effect ext db (.raid call) { db with raid := raid }
  | scope {request : Scope.Request} {scope : Scope.Db}
      (hok : Scope.handle ext db.scope request = .ok scope) :
      Effect ext db (.scope request) (db.with_scope scope)
  | links {request : Request} {links : Table RaidItemScopeLink RaidItemScopeLink.id}
      (hapart : ¬ PullsApart db request)
      (hlinks : ∀ link ∈ links, link ∈ db.links ∨ Made db link) :
      Effect ext db request { db with links := links }

theorem effect_of_handle {ext : External} {db db' : Db} {request : Request}
    (hok : handle ext db request = .ok db') : Effect ext db request db' := by
  cases request with
  | raid call =>
    simp only [handle, bind_eq_ok, Except.ok.injEq] at hok
    obtain ⟨raid, hraid, rfl⟩ := hok
    exact .raid hraid
  | scope request =>
    simp only [handle, bind_eq_ok, Except.ok.injEq] at hok
    obtain ⟨scope, hscope, rfl⟩ := hok
    exact .scope hscope
  | add_raid_scope_link user release_id item_id release_change_id =>
    simp only [handle, bind_eq_ok] at hok
    obtain ⟨_, -, _, -, hadd⟩ := hok
    obtain ⟨links, rfl, hlinks⟩ := add_scope_link_made hadd
    exact .links id hlinks
  | remove_raid_scope_link user release_id item_id release_change_id =>
    simp only [handle, bind_eq_ok] at hok
    obtain ⟨_, -, _, -, hremove⟩ := hok
    obtain ⟨links, rfl, hlinks⟩ := remove_scope_link_kept hremove
    exact .links id fun link hlink => Or.inl (hlinks link hlink)

/-- A move is of a live item, and only if it is to another place does it write anything. -/
theorem moved_of_handle {ext : External} {change_id : ℕ}
    (hok : Scope.handle ext scope (.move_change user change_id to_release_id) = .ok scope') :
    ∃ change ∈ scope.changes, change.id = change_id ∧
      (change.release_id = to_release_id ∧ scope' = scope ∨
        change.release_id ≠ to_release_id ∧ scope'.changes =
          scope.changes.update (fun c => c.id = change.id) (Scope.reassigned to_release_id)) := by
  simp only [Scope.handle, Scope.move_change, bind_eq_ok] at hok
  obtain ⟨change, hget, _, -, hok⟩ := hok
  obtain ⟨hchange, hmatch⟩ := Table.select_one_some (get_or_raise_eq_ok.1 hget)
  refine ⟨change, hchange, (of_decide_eq_true hmatch).1, ?_⟩
  by_cases hsame : change.release_id = to_release_id
  · rw [if_pos hsame] at hok
    exact Or.inl ⟨hsame, (Except.ok.inj hok).symm⟩
  · rw [if_neg hsame] at hok
    simp only [bind_eq_ok, Except.ok.injEq] at hok
    obtain ⟨_, -, _, -, changes, hset, rfl⟩ := hok
    exact Or.inr ⟨hsame, (Scope.set_change_ok.1 hset).2.2⟩

theorem released_of_handle {ext : External} {now : DateTime}
    (hok : Scope.handle ext scope (.delete_release user release_id now) = .ok scope') :
    scope'.changes = scope.changes.update
      (fun c => c.release_id = some release_id ∧ c.tenant_id = user.active_tenant_id ∧
        c.deleted_at = none) (Scope.reassigned none) := by
  simp only [Scope.handle, Scope.delete_release, bind_eq_ok, Except.ok.injEq] at hok
  obtain ⟨_, -, rfl⟩ := hok
  rfl

/-- No request takes a key back. -/
theorem next_le_changes {ext : External} (hconstraints : Scope.Constraints scope.changes)
    (hok : Scope.handle ext scope request = .ok scope') :
    scope.changes.next ≤ scope'.changes.next := by
  by_cases hmoves : Moves request
  · cases request with
    | move_change user change_id to_release_id =>
      obtain ⟨change, -, -, ⟨-, rfl⟩ | ⟨-, hchanges⟩⟩ := moved_of_handle hok
      · exact le_refl _
      · rw [hchanges]
        exact le_refl _
    | delete_release user release_id now =>
      rw [released_of_handle hok]
      exact le_refl _
    | _ => exact absurd hmoves id
  · exact (descends_changes hconstraints hmoves hok).next

theorem valid_step (ext : External) (db : Db) (request : Request) (hv : Valid db) :
    Valid (step ext db request) := by
  refine commit_or_rollback_keeps hv fun db' hok => ?_
  cases effect_of_handle hok with
  | @raid call raid hraid =>
    have hnext := (descends_items (writes_of_handle hraid)).next
    exact ⟨hv.constraints, fun link hlink => (hv.items link hlink).trans_le hnext, hv.changes⟩
  | @scope request scope hscope =>
    have hnext := next_le_changes hv.constraints hscope
    exact ⟨Scope.constraints_handle hv.constraints request hscope, hv.items,
      fun link hlink => (hv.changes link hlink).trans_le hnext⟩
  | links hapart hlinks =>
    refine ⟨hv.constraints, fun link hlink => ?_, fun link hlink => ?_⟩
    · rcases hlinks link hlink with hold | ⟨item, hitem, c, hc, hid, -⟩
      · exact hv.items link hold
      · exact hid ▸ Table.key_lt_next hitem
    · rcases hlinks link hlink with hold | ⟨item, hitem, c, hc, -, hid, -⟩
      · exact hv.changes link hold
      · exact hid ▸ Table.key_lt_next hc

/-! ## A step and a run -/

/-- Rows that stay in their releases keep their links inside, and a new row has none. -/
theorem inside_of_descends {db : Db} {items : Table RaidItem RaidItem.id} {changes : Scope.Changes}
    (hv : Valid db) (h : LinksInside db) (hitems : Table.Descends StaysIn db.raid.items items)
    (hchanges : Table.Descends ChangeStaysIn db.scope.changes changes) :
    ∀ link ∈ db.links, ∀ item ∈ items, ∀ c ∈ changes, Joins link item c →
      c.release_id = some item.release_id := by
  rintro link hlink item hitem c hc ⟨hitem_id, hc_id, hitem_live, hc_live⟩
  rcases hitems.origin item hitem with ⟨item₀, hitem₀, hid₀, hrelease₀, hlive₀⟩ | hnew
  · rcases hchanges.origin c hc with ⟨c₀, hc₀, hcid₀, hcrelease₀, hclive₀⟩ | hnew
    · rw [hcrelease₀, hrelease₀]
      exact h link hlink item₀ hitem₀ c₀ hc₀
        ⟨hid₀.trans hitem_id, hcid₀.trans hc_id, hlive₀ hitem_live, hclive₀ hc_live⟩
    -- a new row has a key that no link has yet
    · exact absurd (hc_id ▸ hv.changes link hlink) (Nat.not_lt.2 hnew)
  · exact absurd (hitem_id ▸ hv.items link hlink) (Nat.not_lt.2 hnew)

/-- **A scope item taken elsewhere.** Where some items are put in another place than the
rest of their links, the links stay inside exactly if none of those items is linked. -/
theorem inside_update_iff {db : Db} {p : ReleaseChange → Bool} (h : LinksInside db)
    (hscope : scope.changes = db.scope.changes.update p (Scope.reassigned to_release_id))
    (helsewhere : ∀ c ∈ db.scope.changes, p c = true → c.release_id ≠ to_release_id) :
    LinksInside (db.with_scope scope) ↔
      ¬ ∃ c ∈ db.scope.changes, p c = true ∧ Linked db c := by
  constructor
  · rintro hafter ⟨c, hc, hp, link, hlink, item, hitem, hjoins⟩
    have hmoved : (Scope.reassigned to_release_id).apply c ∈ scope.changes := by
      rw [hscope]
      exact Table.mem_update_of_pos hc hp
    have hto := hafter link hlink item hitem _ hmoved hjoins
    exact helsewhere c hc hp ((h link hlink item hitem c hc hjoins).trans hto.symm)
  · intro hnone link hlink item hitem c' hc' hjoins
    have hc' : c' ∈ db.scope.changes.update p (Scope.reassigned to_release_id) := hscope ▸ hc'
    rcases Table.mem_update_cases hc' with ⟨c, hc, hp, rfl⟩ | ⟨hc', -⟩
    · exact absurd ⟨c, hc, hp, link, hlink, item, hitem, hjoins⟩ hnone
    · exact h link hlink item hitem c' hc' hjoins

theorem inside_moved_iff {ext : External} {db : Db} (hmoves : Moves request) (h : LinksInside db)
    (hok : Scope.handle ext db.scope request = .ok scope) :
    LinksInside (db.with_scope scope) ↔ ¬ PullsApart db (.scope request) := by
  cases request with
  | move_change user change_id to_release_id =>
    obtain ⟨change, hchange, rfl, ⟨hsame, rfl⟩ | ⟨helsewhere, hscope⟩⟩ := moved_of_handle hok
    · -- the item is there already, and nothing is written
      refine iff_of_true h ?_
      rintro ⟨c, hc, hid, -, hne⟩
      exact hne (Table.eq_of_key_eq hc hchange hid ▸ hsame)
    · rw [inside_update_iff h hscope fun c hc hp =>
        (Table.key_match hchange c hc).1 hp ▸ helsewhere, not_iff_not]
      refine exists_congr fun c => and_congr_right fun hc => ?_
      rw [decide_eq_true_eq]
      refine and_congr_right fun hid => (and_iff_left ?_).symm
      exact Table.eq_of_key_eq hc hchange hid ▸ helsewhere
  | delete_release user release_id now =>
    rw [inside_update_iff h (released_of_handle hok) fun c hc hp => ?_, not_iff_not]
    · refine exists_congr fun c => and_congr_right fun hc => ?_
      rw [decide_eq_true_eq]
      constructor
      · rintro ⟨⟨hrelease, htenant, -⟩, hlinked⟩
        exact ⟨hrelease, htenant, hlinked⟩
      · rintro ⟨hrelease, htenant, hlinked⟩
        obtain ⟨link, hlink, item, hitem, hjoins⟩ := hlinked
        exact ⟨⟨hrelease, htenant, hjoins.2.2.2⟩, link, hlink, item, hitem, hjoins⟩
    · rw [(of_decide_eq_true hp).1]
      exact Option.some_ne_none release_id
  | _ => exact absurd hmoves id

theorem not_pullsApart {db : Db} (h : ¬ Moves request) :
    ¬ PullsApart db (.scope request) := by
  cases request with
  | move_change user change_id to_release_id => exact absurd trivial h
  | delete_release user release_id now => exact absurd trivial h
  | _ => exact id

theorem linksInside_handle_iff {ext : External} {db db' : Db} {request : Request} (hv : Valid db)
    (h : LinksInside db) (hok : handle ext db request = .ok db') :
    LinksInside db' ↔ ¬ PullsApart db request := by
  cases effect_of_handle hok with
  | @raid call raid hraid =>
    have hinside := inside_of_descends hv h (descends_items (writes_of_handle hraid))
      (Table.descends_refl ChangeStaysIn.refl _)
    exact iff_of_true hinside id
  | @scope request scope hscope =>
    by_cases hmoves : Moves request
    · exact inside_moved_iff hmoves h hscope
    · have hinside := inside_of_descends hv h (Table.descends_refl StaysIn.refl _)
        (descends_changes hv.constraints hmoves hscope)
      exact iff_of_true hinside (not_pullsApart hmoves)
  | links hapart hlinks =>
    refine iff_of_true (fun link hlink item hitem c hc hjoins => ?_) hapart
    rcases hlinks link hlink with hold | ⟨item₀, hitem₀, c₀, hc₀, hid, hcid, hrelease⟩
    · exact h link hold item hitem c hc hjoins
    · obtain rfl := Table.eq_of_key_eq hitem hitem₀ (hjoins.1.trans hid)
      obtain rfl := Table.eq_of_key_eq hc hc₀ (hjoins.2.1.trans hcid)
      exact hrelease

/-- **When links stay inside one release.** Over any run of requests to the two services, a
link between live rows always joins two rows of one release, if and only if no accepted
request moves a scope item that is linked to a live RAID item to another release or to the
backlog, or deletes the release of one. -/
theorem links_inside_iff (ext : External) (reference : Scope.Reference) (users : List User)
    (release_dependencies : List ReleaseDependency) (requests : List Request) :
    Always (step ext) LinksInside (Db.opened reference users release_dependencies) requests ↔
      Along (step ext) (fun db request => Accepted ext db request → ¬ PullsApart db request)
        (Db.opened reference users release_dependencies) requests := by
  refine always_iff_along (valid_step ext) (fun db request hv h => ?_) ?_ ?_ requests
  · exact commit_or_rollback_iff h fun db' hok => linksInside_handle_iff hv h hok
  · exact ⟨Scope.constraints_empty, fun link hlink => absurd hlink (Table.not_mem_empty link),
      fun link hlink => absurd hlink (Table.not_mem_empty link)⟩
  · exact fun link hlink => absurd hlink (Table.not_mem_empty link)

namespace TakenElsewhere

def admin : CurrentUser := ⟨1, 1, Role.ADMIN, false⟩

/-- Two releases of the tenant. -/
def reference : Scope.Reference := ⟨[⟨1, 1, none⟩, ⟨2, 1, none⟩], [], []⟩

def change : Scope.ReleaseChangeCreate where
  external_key := none
  title := "Pay by card"
  description := none
  change_kind := "feature"
  external_status := none
  system_id := none
  custom_fields := none
  project_code := none
  project_name := none

/-- A risk and a scope item of the first release are linked, and the item is moved. -/
def requests : List Request :=
  [.raid ⟨admin, .create_raid 1 Sample.risk, 0⟩, .scope (.create_change admin 1 change),
   .add_raid_scope_link admin 1 1 1, .scope (.move_change admin 1 (some 2))]

/-- What a spreadsheet library would read; nothing is uploaded. -/
def ext : External := ⟨String.toLower, .finite⟩

end TakenElsewhere

/-- The link joins the first release with the second. -/
theorem moved_item_keeps_link :
    ¬ Always (step TakenElsewhere.ext) LinksInside
      (Db.opened TakenElsewhere.reference [⟨1, 1⟩] []) TakenElsewhere.requests := by
  intro h
  have hlast := (always_iff _ _ _).1 h TakenElsewhere.requests [] (List.append_nil _).symm
  have hapart : ∃ link ∈ (run (step TakenElsewhere.ext) (Db.opened TakenElsewhere.reference
      [⟨1, 1⟩] []) TakenElsewhere.requests).links,
      ∃ item ∈ (run (step TakenElsewhere.ext) (Db.opened TakenElsewhere.reference
        [⟨1, 1⟩] []) TakenElsewhere.requests).raid.items,
      ∃ c ∈ (run (step TakenElsewhere.ext) (Db.opened TakenElsewhere.reference
        [⟨1, 1⟩] []) TakenElsewhere.requests).scope.changes,
      Joins link item c ∧ c.release_id ≠ some item.release_id := by
    decide +kernel
  obtain ⟨link, hlink, item, hitem, c, hc, hjoins, hne⟩ := hapart
  exact hne (hlast link hlink item hitem c hc hjoins)

end EnvMgr.Raid.ScopeLinks
