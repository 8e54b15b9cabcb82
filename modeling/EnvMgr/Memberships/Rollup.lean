/-
What an enterprise release shows of its members: `enterprise_rollup_service.py`.

The rollups start from the memberships that are accepted, and a membership outlives the project
release it admitted: what a deleted member left behind is added up with the rest, though its own
page is gone. The roles in a system are kept under the name of the release, and names are not
unique: members that are named alike are rolled into one.
-/
import EnvMgr.Lib.Counting
import EnvMgr.Lib.Index
import EnvMgr.Memberships.Consistent
import EnvMgr.Raid.Summary

namespace EnvMgr.Memberships

open Deployments (Page fetch_page)
open Raid (RaidConfig RaidItem ItemType live_items)
open Runs (run Along Always)

variable {r : Statuses.Release} {request : Request}
variable {release_id : ℕ} {a : ReleaseMembership}

/-! ## Tables -/

/-- A system taking part in a release, and as what. -/
structure ReleaseSystem where
  id : ℕ
  tenant_id : ℕ
  release_id : ℕ
  system_id : ℕ
  role : String
  deriving DecidableEq

/-- What the rollups read besides the memberships. -/
structure Contents where
  raid : Raid.Db
  systems : Table Statuses.System Statuses.System.id
  release_systems : Table ReleaseSystem ReleaseSystem.id
  /-- `uq_release_system`. -/
  linked_once : ∀ a ∈ release_systems, ∀ b ∈ release_systems, a.release_id = b.release_id →
    a.system_id = b.system_id → a = b

structure RollupDb where
  members : Db
  contents : Contents

def _accepted_child_ids (db : Db) (tenant_id enterprise_id : ℕ) : List ℕ :=
  (db.memberships.select fun m =>
    m.enterprise_release_id = enterprise_id ∧ m.tenant_id = tenant_id ∧ m.state = .accepted).map
    ReleaseMembership.project_release_id

/-! ## Systems -/

def live_system (db : RollupDb) (system_id : ℕ) : Option Statuses.System :=
  db.contents.systems.select_one fun s => s.id = system_id ∧ s.deleted_at = none

/-- `release_system_service.list_release_systems`: the links, with the names of the systems. -/
def list_release_systems (db : RollupDb) (release_id tenant_id : ℕ) (page : Option Page) :
    List (ReleaseSystem × String) × ℕ :=
  let rows := (db.contents.release_systems.select fun link =>
    link.release_id = release_id ∧ link.tenant_id = tenant_id).filterMap fun link =>
      (live_system db link.system_id).map fun s => (link, s.name)
  fetch_page (order_by (fun row => row.1.id) rows) page

/-- A row of the rollup's query. -/
structure LinkRow where
  link : ReleaseSystem
  system : Statuses.System
  release : Statuses.Release

/-- The joins, neither of which asks whether the release is deleted. -/
def link_row (db : RollupDb) (link : ReleaseSystem) : Option LinkRow := do
  let system ← live_system db link.system_id
  let release ← db.members.statuses.releases.select_one fun r => r.id = link.release_id
  some ⟨link, system, release⟩

def link_rows (db : RollupDb) (tenant_id enterprise_id : ℕ) : List LinkRow :=
  let child_ids := _accepted_child_ids db.members tenant_id enterprise_id
  (db.contents.release_systems.select fun link =>
    link.release_id ∈ child_ids ∧ link.tenant_id = tenant_id).filterMap (link_row db)

structure SystemRollupRow where
  system_id : ℕ
  system_name : String
  /-- The roles that a release contributes for the system, by the name of the release. -/
  roles_by_project : Index String (List String)

/-- The loop over the rows: an entry for each system, and in it a list for each name. -/
def by_system (rows : List LinkRow) : List SystemRollupRow :=
  (Index.group (fun row => row.system.id) id rows).items.map fun entry =>
    { system_id := entry.1
      system_name := (entry.2.head?.map fun row => row.system.name).getD ""
      roles_by_project :=
        Index.group (fun row => row.release.name) (fun row => row.link.role) entry.2 }

def systems_rollup (db : RollupDb) (tenant_id enterprise_id : ℕ) : List SystemRollupRow :=
  if _accepted_child_ids db.members tenant_id enterprise_id = [] then []
  else by_system (link_rows db tenant_id enterprise_id)

/-! ## RAID -/

structure TopRisk where
  ref_code : String
  release_id : ℕ
  title : Raid.Value
  severity : ℤ
  rag : Option String
  deriving DecidableEq

structure RaidRollup where
  counts_by_type : List (String × ℕ)
  counts_by_rag : List (String × ℕ)
  open_issues : ℕ
  overdue_reviews : ℕ
  top_risks : List TopRisk
  deriving DecidableEq

/-- A risk or an issue that has a score. -/
def candidate (config : RaidConfig) (item : RaidItem) : Option TopRisk :=
  if item.item_type = .risk ∨ item.item_type = .issue then
    item.severity.map fun sev =>
      ⟨Raid.ref_code item, item.release_id, item.columns .title, sev,
        Raid.rag (some sev) config.rag_bands⟩
  else none

def raid_rollup (db : RollupDb) (enterprise_id tenant_id : ℕ) (config : RaidConfig)
    (now : DateTime) : RaidRollup :=
  let child_ids := _accepted_child_ids db.members tenant_id enterprise_id
  let items := if child_ids = [] then [] else db.contents.raid.items.select fun i =>
    i.release_id ∈ child_ids ∧ i.tenant_id = tenant_id ∧ i.deleted_at = none
  { counts_by_type := [ItemType.risk, .assumption, .issue, .dependency].map fun item_type =>
      (item_type.value, items.countP fun i => i.item_type = item_type)
    counts_by_rag := ["green", "amber", "red"].map fun colour =>
      (colour, items.countP fun i => Raid.rag i.severity config.rag_bands = some colour)
    open_issues := items.countP fun i => i.item_type = .issue ∧ i.status ≠ "closed"
    overdue_reviews := items.countP fun i => i.overdue now
    top_risks := (order_by (fun c => -c.severity) (items.filterMap (candidate config))).take 10 }

/-! ## What a rollup is to be -/

/-- The releases that are members of the enterprise and not deleted. -/
def live_members (db : RollupDb) (tenant_id enterprise_id : ℕ) : List Statuses.Release :=
  db.members.statuses.releases.select fun r =>
    r.id ∈ _accepted_child_ids db.members tenant_id enterprise_id ∧ r.deleted_at = none

/-- `counts[key]`. -/
def count_of (counts : List (String × ℕ)) (key : String) : ℕ :=
  ((counts.find? fun c => c.1 = key).map Prod.snd).getD 0

/-- The counts are the sums of the members' own summaries. -/
def RaidExact (db : RollupDb) (tenant_id enterprise_id : ℕ) (config : RaidConfig)
    (now : DateTime) : Prop :=
  ∃ summaries, (live_members db tenant_id enterprise_id).mapM (fun r =>
      Raid.summary db.contents.raid r.id tenant_id config now) = .ok summaries ∧
    let rollup := raid_rollup db enterprise_id tenant_id config now
    (∀ key, count_of rollup.counts_by_type key =
      (summaries.map fun s => count_of s.counts_by_type key).sum) ∧
    (∀ key, count_of rollup.counts_by_rag key =
      (summaries.map fun s => count_of s.counts_by_rag key).sum) ∧
    rollup.open_issues = (summaries.map Raid.Summary.open_issues).sum ∧
    rollup.overdue_reviews = (summaries.map Raid.Summary.overdue_reviews).sum

/-- What a row attributes: the system, the name of a release and its roles there. -/
def SystemRollupRow.attributions (row : SystemRollupRow) : List ((ℕ × String) × List String) :=
  row.roles_by_project.items.map fun i => ((row.system_id, i.1), i.2)

/-- What the member's own list of systems has, under its name. -/
def own_attributions (db : RollupDb) (tenant_id : ℕ) (r : Statuses.Release) :
    List ((ℕ × String) × List String) :=
  (list_release_systems db r.id tenant_id none).1.map fun row =>
    ((row.1.system_id, r.name), [row.1.role])

/-- Each link of a member has one entry in the rollup, with its own role in it and no other, and
there are no more entries. -/
def SystemsExact (db : RollupDb) (tenant_id enterprise_id : ℕ) : Prop :=
  ((systems_rollup db tenant_id enterprise_id).flatMap SystemRollupRow.attributions).Perm
    ((live_members db tenant_id enterprise_id).flatMap (own_attributions db tenant_id))

structure Exact (db : RollupDb) (tenant_id enterprise_id : ℕ) (config : RaidConfig)
    (now : DateTime) : Prop where
  raid : RaidExact db tenant_id enterprise_id config now
  systems : SystemsExact db tenant_id enterprise_id

/-! ## Members and their links -/

variable {rollup : RollupDb} {tenant_id enterprise_id : ℕ}

/-- The release is in the enterprise, deleted or not. -/
def Member (db : Db) (tenant_id enterprise_id release_id : ℕ) : Prop :=
  ∃ m ∈ db.memberships, m.enterprise_release_id = enterprise_id ∧ m.tenant_id = tenant_id ∧
    m.state = .accepted ∧ m.project_release_id = release_id

theorem mem_accepted_child_ids {db : Db} :
    release_id ∈ _accepted_child_ids db tenant_id enterprise_id ↔
      Member db tenant_id enterprise_id release_id := by
  rw [_accepted_child_ids, List.mem_map]
  constructor
  · rintro ⟨m, hm, hrelease⟩
    rw [Table.mem_select, decide_eq_true_eq] at hm
    exact ⟨m, hm.1, hm.2.1, hm.2.2.1, hm.2.2.2, hrelease⟩
  · rintro ⟨m, hm, henterprise, htenant, hstate, hrelease⟩
    exact ⟨m, Table.mem_select.2 ⟨hm, decide_eq_true ⟨henterprise, htenant, hstate⟩⟩, hrelease⟩

theorem mem_live_members :
    r ∈ live_members rollup tenant_id enterprise_id ↔
      r ∈ rollup.members.statuses.releases ∧
        Member rollup.members tenant_id enterprise_id r.id ∧ r.deleted_at = none := by
  rw [live_members, Table.mem_select, decide_eq_true_eq, mem_accepted_child_ids]

/-- The ids by which the items of the live members are told. -/
theorem mem_live_ids :
    release_id ∈ (live_members rollup tenant_id enterprise_id).map Statuses.Release.id ↔
      Member rollup.members tenant_id enterprise_id release_id ∧
        Live rollup.members release_id := by
  rw [List.mem_map]
  constructor
  · rintro ⟨r, hr, rfl⟩
    obtain ⟨hmem, hmember, hlive⟩ := mem_live_members.1 hr
    exact ⟨hmember, r, hmem, rfl, hlive⟩
  · rintro ⟨hmember, r, hmem, rfl, hlive⟩
    exact ⟨r, mem_live_members.2 ⟨hmem, hmember, hlive⟩, rfl⟩

theorem child_of_live_id
    (h : release_id ∈ (live_members rollup tenant_id enterprise_id).map Statuses.Release.id) :
    release_id ∈ _accepted_child_ids rollup.members tenant_id enterprise_id :=
  mem_accepted_child_ids.2 (mem_live_ids.1 h).1

theorem live_system_iff {system_id : ℕ} {s : Statuses.System} :
    live_system rollup system_id = some s ↔
      s ∈ rollup.contents.systems ∧ s.id = system_id ∧ s.deleted_at = none :=
  Table.select_one_key_iff fun _ h => h.1

theorem link_row_iff {link : ReleaseSystem} {row : LinkRow} :
    link_row rollup link = some row ↔
      row.link = link ∧ live_system rollup link.system_id = some row.system ∧
        row.release ∈ rollup.members.statuses.releases ∧ row.release.id = link.release_id := by
  have hfound : ∀ r, rollup.members.statuses.releases.select_one (fun r => r.id = link.release_id) =
      some r ↔ r ∈ rollup.members.statuses.releases ∧ r.id = link.release_id :=
    fun r => Table.select_one_key_iff fun _ h => h
  simp only [link_row, Option.bind_eq_bind, Option.bind_eq_some_iff, Option.some.injEq, hfound]
  constructor
  · rintro ⟨system, hsystem, release, hrelease, rfl⟩
    exact ⟨rfl, hsystem, hrelease⟩
  · rintro ⟨rfl, hsystem, hrelease⟩
    exact ⟨row.system, hsystem, row.release, hrelease, rfl⟩

theorem mem_link_rows {row : LinkRow} :
    row ∈ link_rows rollup tenant_id enterprise_id ↔
      row.link ∈ rollup.contents.release_systems ∧ row.link.tenant_id = tenant_id ∧
        Member rollup.members tenant_id enterprise_id row.link.release_id ∧
        live_system rollup row.link.system_id = some row.system ∧
        row.release ∈ rollup.members.statuses.releases ∧ row.release.id = row.link.release_id := by
  rw [link_rows, List.mem_filterMap]
  constructor
  · rintro ⟨link, hlink, hrow⟩
    obtain ⟨rfl, hsystem, hrelease⟩ := link_row_iff.1 hrow
    rw [Table.mem_select, decide_eq_true_eq, mem_accepted_child_ids] at hlink
    exact ⟨hlink.1, hlink.2.2, hlink.2.1, hsystem, hrelease⟩
  · rintro ⟨hlink, htenant, hmember, hsystem, hrelease⟩
    refine ⟨row.link, ?_, link_row_iff.2 ⟨rfl, hsystem, hrelease⟩⟩
    rw [Table.mem_select, decide_eq_true_eq, mem_accepted_child_ids]
    exact ⟨hlink, hmember, htenant⟩

theorem link_rows_nodup : (link_rows rollup tenant_id enterprise_id).Nodup := by
  refine List.Nodup.filterMap ?_ (rollup.contents.release_systems.rows_nodup.filter _)
  intro link link' row hrow hrow'
  rw [← (link_row_iff.1 hrow).1, (link_row_iff.1 hrow').1]

/-! ## Systems -/

/-- Without members there is nothing to group. -/
theorem systems_rollup_eq :
    systems_rollup rollup tenant_id enterprise_id =
      by_system (link_rows rollup tenant_id enterprise_id) := by
  rw [systems_rollup]
  by_cases hnone : _accepted_child_ids rollup.members tenant_id enterprise_id = []
  · have hrows : link_rows rollup tenant_id enterprise_id = [] := by
      refine List.eq_nil_iff_forall_not_mem.2 fun row hrow => ?_
      have hmember := mem_accepted_child_ids.2 (mem_link_rows.1 hrow).2.2.1
      rw [hnone] at hmember
      cases hmember
    rw [if_pos hnone, hrows]
    rfl
  · rw [if_neg hnone]

/-- The entries are the groups of the rows, by system and name. -/
theorem attributions_by_system (rows : List LinkRow) :
    ((by_system rows).flatMap SystemRollupRow.attributions).Perm
      (Index.group (fun row => (row.system.id, row.release.name)) (fun row => row.link.role)
        rows).items := by
  have hgroups := Index.group_group (fun row : LinkRow => row.system.id)
    (fun row => row.release.name) (fun row => row.link.role) rows
  rw [by_system, List.flatMap_map]
  exact hgroups

/-- The links of one member, with the member. -/
def member_rows (db : RollupDb) (tenant_id : ℕ) (r : Statuses.Release) : List LinkRow :=
  (db.contents.release_systems.select fun link =>
    link.release_id = r.id ∧ link.tenant_id = tenant_id).filterMap fun link =>
      (live_system db link.system_id).map fun s => ⟨link, s, r⟩

/-- The entry of a row alone. -/
def own_entry (row : LinkRow) : (ℕ × String) × List String :=
  ((row.system.id, row.release.name), [row.link.role])

theorem own_attributions_perm (r : Statuses.Release) :
    (own_attributions rollup tenant_id r).Perm ((member_rows rollup tenant_id r).map own_entry) := by
  refine ((List.perm_insertionSort _ _).map _).trans (List.Perm.of_eq ?_)
  rw [member_rows, List.map_filterMap, List.map_filterMap]
  refine List.filterMap_congr fun link _ => ?_
  cases hs : live_system rollup link.system_id with
  | none => rfl
  | some s =>
    rw [Option.map_some, Option.map_some, Option.map_some, Option.map_some, own_entry,
      (live_system_iff.1 hs).2.1]

theorem mem_member_rows {row : LinkRow} :
    row ∈ member_rows rollup tenant_id r ↔
      row.link ∈ rollup.contents.release_systems ∧ row.link.release_id = r.id ∧
        row.link.tenant_id = tenant_id ∧
        live_system rollup row.link.system_id = some row.system ∧ row.release = r := by
  rw [member_rows, List.mem_filterMap]
  constructor
  · rintro ⟨link, hlink, hrow⟩
    obtain ⟨s, hs, rfl⟩ := Option.map_eq_some_iff.1 hrow
    rw [Table.mem_select, decide_eq_true_eq] at hlink
    exact ⟨hlink.1, hlink.2.1, hlink.2.2, hs, rfl⟩
  · rintro ⟨hlink, hrelease, htenant, hs, rfl⟩
    refine ⟨row.link, Table.mem_select.2 ⟨hlink, decide_eq_true ⟨hrelease, htenant⟩⟩, ?_⟩
    rw [hs, Option.map_some]

/-- **The links of the live members are the rows of the query whose release is live.** -/
theorem member_rows_perm :
    ((live_members rollup tenant_id enterprise_id).flatMap (member_rows rollup tenant_id)).Perm
      ((link_rows rollup tenant_id enterprise_id).filter fun row => row.release.deleted_at = none) := by
  have hnodup : ((live_members rollup tenant_id enterprise_id).flatMap
      (member_rows rollup tenant_id)).Nodup := by
    rw [List.nodup_flatMap]
    constructor
    · intro r _
      refine List.Nodup.filterMap ?_ (rollup.contents.release_systems.rows_nodup.filter _)
      intro link link' row hrow hrow'
      obtain ⟨s, -, rfl⟩ := Option.map_eq_some_iff.1 hrow
      obtain ⟨s', -, heq⟩ := Option.map_eq_some_iff.1 hrow'
      rw [LinkRow.mk.injEq] at heq
      exact heq.1.symm
    · refine (rollup.members.statuses.releases.rows_nodup.filter _).imp fun hne => ?_
      intro row hrow hrow'
      exact hne ((mem_member_rows.1 hrow).2.2.2.2.symm.trans (mem_member_rows.1 hrow').2.2.2.2)
  refine (List.perm_ext_iff_of_nodup hnodup (link_rows_nodup.filter _)).2 fun row => ?_
  rw [List.mem_flatMap, List.mem_filter, decide_eq_true_eq, mem_link_rows]
  constructor
  · rintro ⟨r, hr, hrow⟩
    obtain ⟨hmem, hmember, hlive⟩ := mem_live_members.1 hr
    obtain ⟨hlink, hrelease, htenant, hs, rfl⟩ := mem_member_rows.1 hrow
    rw [hrelease]
    exact ⟨⟨hlink, htenant, hmember, hs, hmem, rfl⟩, hlive⟩
  · rintro ⟨⟨hlink, htenant, hmember, hs, hmem, hrelease⟩, hlive⟩
    refine ⟨row.release, mem_live_members.2 ⟨hmem, ?_, hlive⟩,
      mem_member_rows.2 ⟨hlink, hrelease.symm, htenant, hs, rfl⟩⟩
    rw [hrelease]
    exact hmember

/-- A link of a member to a system that is not deleted. -/
structure Linked (db : RollupDb) (tenant_id enterprise_id : ℕ) (link : ReleaseSystem)
    (r : Statuses.Release) : Prop where
  link_mem : link ∈ db.contents.release_systems
  tenant : link.tenant_id = tenant_id
  member : Member db.members tenant_id enterprise_id link.release_id
  system : ∃ s ∈ db.contents.systems, s.id = link.system_id ∧ s.deleted_at = none
  release_mem : r ∈ db.members.statuses.releases
  release_id : r.id = link.release_id

/-- Members that take part in one system have different names. -/
def NamesApart (db : RollupDb) (tenant_id enterprise_id : ℕ) : Prop :=
  ∀ a r b r', Linked db tenant_id enterprise_id a r → Linked db tenant_id enterprise_id b r' →
    a.system_id = b.system_id → r.name = r'.name → r = r'

theorem linked_of_mem {row : LinkRow} (h : row ∈ link_rows rollup tenant_id enterprise_id) :
    Linked rollup tenant_id enterprise_id row.link row.release := by
  obtain ⟨hlink, htenant, hmember, hs, hmem, hrelease⟩ := mem_link_rows.1 h
  exact ⟨hlink, htenant, hmember, ⟨row.system, live_system_iff.1 hs⟩, hmem, hrelease⟩

theorem Linked.exists_row {link : ReleaseSystem}
    (h : Linked rollup tenant_id enterprise_id link r) :
    ∃ s, s.id = link.system_id ∧
      (⟨link, s, r⟩ : LinkRow) ∈ link_rows rollup tenant_id enterprise_id := by
  obtain ⟨s, hs⟩ := h.system
  exact ⟨s, hs.2.1, mem_link_rows.2
    ⟨h.link_mem, h.tenant, h.member, live_system_iff.2 hs, h.release_mem, h.release_id⟩⟩

/-- The keys of the rows differ exactly if the names do: a release is linked to a system once. -/
theorem keys_nodup_iff :
    ((link_rows rollup tenant_id enterprise_id).map fun row =>
        (row.system.id, row.release.name)).Nodup ↔ NamesApart rollup tenant_id enterprise_id := by
  rw [List.nodup_map_iff_inj_on link_rows_nodup]
  constructor
  · intro hinj a r b r' ha hb hsystem hname
    obtain ⟨s, hs, hrow⟩ := ha.exists_row
    obtain ⟨s', hs', hrow'⟩ := hb.exists_row
    have hkey : (s.id, r.name) = (s'.id, r'.name) := by rw [hs, hs', hsystem, hname]
    exact congrArg LinkRow.release (hinj _ hrow _ hrow' hkey)
  · intro happart row hrow row' hrow' hkey
    rw [Prod.mk.injEq] at hkey
    obtain ⟨hlink, -, -, hs, -, hrelease⟩ := mem_link_rows.1 hrow
    obtain ⟨hlink', -, -, hs', -, hrelease'⟩ := mem_link_rows.1 hrow'
    have hsystem : row.link.system_id = row'.link.system_id := by
      rw [← (live_system_iff.1 hs).2.1, hkey.1, (live_system_iff.1 hs').2.1]
    have hsame : row.release = row'.release :=
      happart _ _ _ _ (linked_of_mem hrow) (linked_of_mem hrow') hsystem hkey.2
    have hlinks : row.link = row'.link := by
      refine rollup.contents.linked_once _ hlink _ hlink' ?_ hsystem
      rw [← hrelease, hsame, hrelease']
    have hsystems : row.system = row'.system := by
      rw [hlinks, hs'] at hs
      exact (Option.some.inj hs).symm
    cases row
    cases row'
    cases hlinks
    cases hsystems
    cases hsame
    rfl

/-- **The systems, exactly.** -/
theorem systemsExact_iff :
    SystemsExact rollup tenant_id enterprise_id ↔
      (∀ link r, Linked rollup tenant_id enterprise_id link r → r.deleted_at = none) ∧
        NamesApart rollup tenant_id enterprise_id := by
  have hown : ((live_members rollup tenant_id enterprise_id).flatMap
      (own_attributions rollup tenant_id)).Perm
      (((link_rows rollup tenant_id enterprise_id).filter fun row =>
        row.release.deleted_at = none).map own_entry) := by
    refine (List.Perm.flatMap_left _ fun r _ => own_attributions_perm r).trans ?_
    rw [← List.map_flatMap]
    exact member_rows_perm.map own_entry
  have hlive : (∀ row ∈ link_rows rollup tenant_id enterprise_id,
      decide (row.release.deleted_at = none) = true) ↔
      ∀ link r, Linked rollup tenant_id enterprise_id link r → r.deleted_at = none := by
    simp only [decide_eq_true_eq]
    constructor
    · intro hall link r h
      obtain ⟨s, -, hrow⟩ := h.exists_row
      exact hall _ hrow
    · intro hall row hrow
      exact hall _ _ (linked_of_mem hrow)
  have hentries := attributions_by_system (link_rows rollup tenant_id enterprise_id)
  rw [← hlive, ← keys_nodup_iff, ← Index.group_apart_iff, SystemsExact, systems_rollup_eq]
  exact ⟨fun h => hentries.symm.trans (h.trans hown), fun h => hentries.trans (h.trans hown.symm)⟩

/-! ## RAID items -/

/-- The live items of the tenant. -/
def tenant_items (db : RollupDb) (tenant_id : ℕ) : List RaidItem :=
  db.contents.raid.items.select fun i => i.tenant_id = tenant_id ∧ i.deleted_at = none

/-- What is rolled up, and what the members show of their own. -/
def rolled_items (db : RollupDb) (tenant_id enterprise_id : ℕ) : List RaidItem :=
  (tenant_items db tenant_id).filter fun i =>
    i.release_id ∈ _accepted_child_ids db.members tenant_id enterprise_id

def member_items (db : RollupDb) (tenant_id enterprise_id : ℕ) : List RaidItem :=
  (tenant_items db tenant_id).filter fun i =>
    i.release_id ∈ (live_members db tenant_id enterprise_id).map Statuses.Release.id

/-- The query's rows, with the early return for an enterprise that has no members. -/
theorem rolled_items_eq :
    (if _accepted_child_ids rollup.members tenant_id enterprise_id = [] then []
      else rollup.contents.raid.items.select fun i =>
        i.release_id ∈ _accepted_child_ids rollup.members tenant_id enterprise_id ∧
          i.tenant_id = tenant_id ∧ i.deleted_at = none) =
      rolled_items rollup tenant_id enterprise_id := by
  have hselect : (rollup.contents.raid.items.select fun i =>
      i.release_id ∈ _accepted_child_ids rollup.members tenant_id enterprise_id ∧
        i.tenant_id = tenant_id ∧ i.deleted_at = none) =
      rolled_items rollup tenant_id enterprise_id := by
    rw [rolled_items, tenant_items, Table.select, Table.select, List.filter_filter]
    refine List.filter_congr fun i _ => ?_
    rw [← Bool.decide_and]
  by_cases hnone : _accepted_child_ids rollup.members tenant_id enterprise_id = []
  · rw [if_pos hnone, rolled_items, hnone]
    exact (List.filter_eq_nil_iff.2 fun i _ => by simp).symm
  · rw [if_neg hnone, hselect]

/-- **What the members count on their own** adds up to what is counted of their items. -/
theorem sum_live_items (p : RaidItem → Bool) :
    ((live_members rollup tenant_id enterprise_id).map fun r =>
        (live_items rollup.contents.raid r.id tenant_id).countP p).sum =
      (member_items rollup tenant_id enterprise_id).countP p := by
  have hids : ((live_members rollup tenant_id enterprise_id).map Statuses.Release.id).Nodup :=
    rollup.members.statuses.releases.keys_nodup.sublist (List.filter_sublist.map _)
  rw [member_items, ← Counting.sum_countP_key RaidItem.release_id p _ hids, List.map_map]
  congr 1
  refine List.map_congr_left fun r _ => ?_
  rw [live_items, tenant_items, Table.select, Table.select, Function.comp_apply, List.filter_filter]
  congr 1
  refine List.filter_congr fun i _ => ?_
  rw [← Bool.decide_and]
  refine decide_eq_decide.2 ?_
  exact ⟨fun h => ⟨h.2.1, h.1, h.2.2⟩, fun h => ⟨h.2.1, h.1, h.2.2⟩⟩

theorem summaries_eq (config : RaidConfig) (now : DateTime) (rs : List Statuses.Release) :
    (rs.mapM fun r => Raid.summary rollup.contents.raid r.id tenant_id config now) =
      .ok (rs.map fun r => Raid.summarise (order_by RaidItem.list_key
        (live_items rollup.contents.raid r.id tenant_id)) config now) := by
  simp only [Raid.summary_eq]
  exact List.mapM_pure

/-- Counts over the same keys. -/
theorem count_of_map {α : Type} (name : α → String) (ks : List α) (count : α → ℕ) (key : String) :
    count_of (ks.map fun k => (name k, count k)) key =
      ((ks.find? fun k => name k = key).map count).getD 0 := by
  rw [count_of, List.find?_map, Option.map_map]
  rfl

/-- Sums of counts over the same keys. -/
theorem count_of_sum_iff {α β : Type} {name : α → String} (hname : Function.Injective name)
    {ks : List α} {total : α → ℕ} {xs : List β} {part : β → α → ℕ} :
    (∀ key, count_of (ks.map fun k => (name k, total k)) key =
        (xs.map fun x => count_of (ks.map fun k => (name k, part x k)) key).sum) ↔
      ∀ k ∈ ks, total k = (xs.map fun x => part x k).sum := by
  simp only [count_of_map]
  constructor
  · intro hall k hk
    have hfind : ks.find? (fun k' => name k' = name k) = some k := by
      cases hfound : ks.find? fun k' => name k' = name k with
      | none =>
        have hnot := List.find?_eq_none.1 hfound k hk
        exact absurd (decide_eq_true rfl) hnot
      | some k' =>
        have hsame := List.find?_some hfound
        rw [decide_eq_true_eq] at hsame
        rw [hname hsame]
    have hkey := hall (name k)
    rw [hfind] at hkey
    exact hkey
  · intro hall key
    cases hfind : ks.find? (fun k => name k = key) with
    | none => simp
    | some k => exact hall k (List.mem_of_find?_eq_some hfind)

theorem value_injective : Function.Injective ItemType.value := by
  intro a b h
  cases a <;> cases b <;> first | rfl | exact absurd h (by decide)

/-- The order of the members' own lists does not matter to what they count. -/
theorem sum_summaries (p : RaidItem → Bool) :
    ((live_members rollup tenant_id enterprise_id).map fun r =>
        (order_by RaidItem.list_key (live_items rollup.contents.raid r.id tenant_id)).countP p).sum =
      (member_items rollup tenant_id enterprise_id).countP p := by
  simp only [Raid.countP_order_by, ← List.countP_eq_length_filter]
  exact sum_live_items p

/-- The members show every item that is rolled up exactly if each is one of a live member. -/
theorem member_items_eq_iff :
    member_items rollup tenant_id enterprise_id = rolled_items rollup tenant_id enterprise_id ↔
      ∀ i ∈ rollup.contents.raid.items, i.tenant_id = tenant_id → i.deleted_at = none →
        Member rollup.members tenant_id enterprise_id i.release_id →
        Live rollup.members i.release_id := by
  rw [member_items, rolled_items]
  constructor
  · intro heq i hi htenant hdeleted hmember
    have hrolled : i ∈ (tenant_items rollup tenant_id).filter fun i =>
        i.release_id ∈ _accepted_child_ids rollup.members tenant_id enterprise_id :=
      List.mem_filter.2 ⟨Table.mem_select.2 ⟨hi, decide_eq_true ⟨htenant, hdeleted⟩⟩,
        decide_eq_true (mem_accepted_child_ids.2 hmember)⟩
    rw [← heq, List.mem_filter, decide_eq_true_eq, mem_live_ids] at hrolled
    exact hrolled.2.2
  · intro hlive
    refine List.filter_congr fun i hi => decide_eq_decide.2 ?_
    rw [tenant_items, Table.mem_select, decide_eq_true_eq] at hi
    rw [mem_live_ids, mem_accepted_child_ids]
    exact and_iff_left_of_imp fun hmember => hlive i hi.1 hi.2.1 hi.2.2 hmember

/-- Every item is of a type that is counted, and so none can be left out. -/
theorem member_items_of_counts (h : ∀ item_type ∈ [ItemType.risk, .assumption, .issue, .dependency],
      (rolled_items rollup tenant_id enterprise_id).countP (fun i => i.item_type = item_type) =
        (member_items rollup tenant_id enterprise_id).countP fun i => i.item_type = item_type) :
    member_items rollup tenant_id enterprise_id = rolled_items rollup tenant_id enterprise_id := by
  refine List.filter_congr fun i hi => decide_eq_decide.2 ⟨child_of_live_id, fun hchild => ?_⟩
  have hall : i.item_type ∈ [ItemType.risk, .assumption, .issue, .dependency] := by
    cases i.item_type <;> decide
  have hcount := h i.item_type hall
  rw [rolled_items, member_items, List.countP_filter, List.countP_filter, eq_comm,
    Counting.countP_eq_iff] at hcount
  · have hown := hcount i hi (by simp [hchild])
    rw [Bool.and_eq_true, decide_eq_true_eq, decide_eq_true_eq] at hown
    exact hown.2
  · -- what a member counts is counted in the rollup too
    intro a _ ha
    rw [Bool.and_eq_true, decide_eq_true_eq, decide_eq_true_eq] at ha ⊢
    exact ⟨ha.1, child_of_live_id ha.2⟩

/-- **The counts, exactly.** -/
theorem raidExact_iff (config : RaidConfig) (now : DateTime) :
    RaidExact rollup tenant_id enterprise_id config now ↔
      ∀ i ∈ rollup.contents.raid.items, i.tenant_id = tenant_id → i.deleted_at = none →
        Member rollup.members tenant_id enterprise_id i.release_id →
        Live rollup.members i.release_id := by
  rw [← member_items_eq_iff, RaidExact, summaries_eq]
  simp only [Except.ok.injEq, exists_eq_left', raid_rollup, rolled_items_eq, Raid.summarise,
    List.map_map, Function.comp_def]
  have hcolours := fun total part => @count_of_sum_iff String Statuses.Release
    (fun colour => colour) (fun _ _ h => h) ["green", "amber", "red"] total
    (live_members rollup tenant_id enterprise_id) part
  beta_reduce at hcolours
  rw [count_of_sum_iff value_injective, hcolours]
  simp only [sum_summaries]
  constructor
  · rintro ⟨htypes, -⟩
    exact member_items_of_counts htypes
  · intro heq
    rw [heq]
    exact ⟨fun _ _ => rfl, fun _ _ => rfl, rfl, rfl⟩

/-- **A rollup is exact exactly if nothing hangs on a deleted member and names tell the members
of a system apart.** -/
theorem exact_iff (config : RaidConfig) (now : DateTime) :
    Exact rollup tenant_id enterprise_id config now ↔
      (∀ i ∈ rollup.contents.raid.items, i.tenant_id = tenant_id → i.deleted_at = none →
        Member rollup.members tenant_id enterprise_id i.release_id →
        Live rollup.members i.release_id) ∧
      (∀ link r, Linked rollup tenant_id enterprise_id link r → r.deleted_at = none) ∧
      NamesApart rollup tenant_id enterprise_id := by
  rw [← raidExact_iff config now, ← systemsExact_iff]
  exact ⟨fun h => ⟨h.raid, h.systems⟩, fun h => ⟨h.1, h.2⟩⟩

/-! ## Runs -/

/-- `contents` is any write of the RAID log, of the systems and of their links. -/
inductive RollupRequest
  | members (request : Request)
  | contents (contents : Contents)

def RollupDb.step (ext : Bookings.External) (db : RollupDb) : RollupRequest → RollupDb
  | .members request => { db with members := Memberships.step ext db.members request }
  | .contents contents => { db with contents := contents }

/-- The request deletes no release that is a member of an enterprise. -/
def KeepsMembers (db : RollupDb) : RollupRequest → Prop
  | .members request => ∀ m ∈ db.members.memberships, m.state = .accepted →
      ∀ r ∈ db.members.statuses.releases, r.id = m.project_release_id → ¬ Deletes request r
  | .contents _ => True

/-- The members of an enterprise are live. -/
def MembersLive (db : Db) : Prop :=
  ∀ m ∈ db.memberships, m.state = .accepted → Live db m.project_release_id

section Step

variable {ext : Bookings.External} {db db' : Db}

theorem Writes.retains (h : Writes db request db') :
    Table.Retains (Later request) db.statuses.releases db'.statuses.releases := by
  cases h with
  | releases hreleases => exact hreleases
  | _ => exact Table.retains_refl (Later.refl _) _

/-- A membership that is not made accepted was so before. -/
theorem accepted_before_of_update {m : ReleaseMembership} {f : Table.Edit ReleaseMembership.id}
    (hf : ∀ m, (f.apply m).state ≠ .accepted) (ha : a ∈ (db.set_membership m f).memberships)
    (haccepted : a.state = .accepted) :
    a ∈ db.memberships := by
  rcases Table.mem_update_cases ha with ⟨b, -, -, rfl⟩ | ⟨ha, -⟩
  · exact absurd haccepted (hf b)
  · exact ha

/-- A member was one before, or is admitted, for which its release has been found. -/
theorem accepted_before (hok : handle ext db request = .ok db') (ha : a ∈ db'.memberships)
    (haccepted : a.state = .accepted) :
    a ∈ db.memberships ∨ db'.statuses = db.statuses ∧ Live db a.project_release_id := by
  cases request with
  | request_membership user enterprise_id project_release_id notes now =>
    simp only [handle, request_membership, bind_eq_ok, raise_if_eq_ok, Except.ok.injEq] at hok
    obtain ⟨enterprise, -, project, -, -, -, -, -, existing, -, -, -, rfl⟩ := hok
    rcases Table.mem_insert.1 ha with ha | rfl
    · exact Or.inl ha
    · cases haccepted
  | accept_membership user membership_id now =>
    simp only [handle, accept, bind_eq_ok, Except.ok.injEq] at hok
    obtain ⟨m, hm, -, -, enterprise, -, project, hproject, -, -, existing, -, -, -, tpl, -, rfl⟩ :=
      hok
    rcases Table.mem_update_cases ha with ⟨b, hb, hp, rfl⟩ | ⟨ha, -⟩
    · obtain rfl := (Table.key_match (_get_membership_ok.1 hm).1 b hb).1 hp
      obtain ⟨hmem, hid, -, hlive⟩ := _get_release_ok.1 hproject
      exact Or.inr ⟨rfl, project, hmem, hid, hlive⟩
    · exact Or.inl ha
  | reject_membership user membership_id notes now =>
    simp only [handle, reject, bind_eq_ok, Except.ok.injEq] at hok
    obtain ⟨m, -, -, -, enterprise, -, -, -, rfl⟩ := hok
    exact Or.inl (accepted_before_of_update (fun _ => by simp) ha haccepted)
  | withdraw_membership user membership_id now =>
    simp only [handle, withdraw, bind_eq_ok, Except.ok.injEq] at hok
    obtain ⟨m, -, -, -, -, -, rfl⟩ := hok
    exact Or.inl (accepted_before_of_update (fun _ => by simp) ha haccepted)
  | remove_membership user membership_id reason now =>
    simp only [handle, remove, bind_eq_ok, Except.ok.injEq] at hok
    obtain ⟨m, -, -, -, enterprise, -, project, -, -, -, rfl⟩ := hok
    exact Or.inl (accepted_before_of_update (fun _ => by simp) ha haccepted)
  | update_release user release_id data =>
    obtain ⟨statuses, -, rfl⟩ := map_eq_ok.1 hok
    exact Or.inl ha
  | statuses request =>
    obtain ⟨statuses, -, rfl⟩ := map_eq_ok.1 hok
    exact Or.inl ha

theorem MembersLive.handle (h : MembersLive db)
    (hkeeps : ∀ m ∈ db.memberships, m.state = .accepted → ∀ r ∈ db.statuses.releases,
      r.id = m.project_release_id → ¬ Deletes request r)
    (hok : Memberships.handle ext db request = .ok db') : MembersLive db' := by
  intro a ha haccepted
  rcases accepted_before hok ha haccepted with ha | ⟨hsame, hlive⟩
  · obtain ⟨r, hr, hid, hlive⟩ := h a ha haccepted
    obtain ⟨r', hr', hlater⟩ := (writes_of_handle hok).retains r hr
    exact ⟨r', hr', hlater.id.trans hid,
      (hlater.deleted (hkeeps a ha haccepted r hr hid)).trans hlive⟩
  · rw [Live, hsame]
    exact hlive

theorem membersLive_step {rollup : RollupDb} {request : RollupRequest}
    (h : MembersLive rollup.members) (hkeeps : KeepsMembers rollup request) :
    MembersLive (rollup.step ext request).members := by
  cases request with
  | members request => exact commit_or_rollback_keeps h fun _ hok => h.handle hkeeps hok
  | contents contents => exact h

end Step

/-- Where the members are live, names alone decide. -/
theorem exact_iff_of_live (h : MembersLive rollup.members) (config : RaidConfig) (now : DateTime) :
    Exact rollup tenant_id enterprise_id config now ↔ NamesApart rollup tenant_id enterprise_id := by
  have hlive : ∀ release_id, Member rollup.members tenant_id enterprise_id release_id →
      Live rollup.members release_id := by
    rintro _ ⟨m, hm, -, -, haccepted, rfl⟩
    exact h m hm haccepted
  rw [exact_iff]
  refine ⟨fun hexact => hexact.2.2, fun happart => ⟨fun i _ _ _ hmember => hlive _ hmember, ?_,
    happart⟩⟩
  intro link r hlinked
  obtain ⟨r', hr', hid, hlive⟩ := hlive _ hlinked.member
  rwa [Table.eq_of_key_eq hlinked.release_mem hr' (hlinked.release_id.trans hid.symm)]

/-- **The rollups of an enterprise are exact exactly if no item and no link hangs on a deleted
member and names tell the members of a system apart.** In a run in which no member is deleted, the
names alone decide, in every state. -/
theorem rollups_exact_iff (tenant_id enterprise_id : ℕ) (config : RaidConfig) (now : DateTime) :
    (∀ rollup : RollupDb,
      Exact rollup tenant_id enterprise_id config now ↔
        (∀ i ∈ rollup.contents.raid.items, i.tenant_id = tenant_id → i.deleted_at = none →
          Member rollup.members tenant_id enterprise_id i.release_id →
          Live rollup.members i.release_id) ∧
        (∀ link r, Linked rollup tenant_id enterprise_id link r → r.deleted_at = none) ∧
        NamesApart rollup tenant_id enterprise_id) ∧
    ∀ (ext : Bookings.External) (statuses : Statuses.Db) (contents : Contents)
      (requests : List RollupRequest),
      Along (RollupDb.step ext) KeepsMembers ⟨Db.opened statuses, contents⟩ requests →
      (Exact (run (RollupDb.step ext) ⟨Db.opened statuses, contents⟩ requests) tenant_id
          enterprise_id config now ↔
        NamesApart (run (RollupDb.step ext) ⟨Db.opened statuses, contents⟩ requests) tenant_id
          enterprise_id) := by
  refine ⟨fun _ => exact_iff config now, ?_⟩
  intro ext statuses contents requests hkeeps
  have hopened : MembersLive (Db.opened statuses) := fun m hm => absurd hm (Table.not_mem_empty m)
  have hstep : ∀ (db : RollupDb) request, MembersLive db.members → KeepsMembers db request →
      MembersLive (db.step ext request).members := fun _ _ h hkeeps => membersLive_step h hkeeps
  exact exact_iff_of_live (Runs.run_inv_along hstep hopened hkeeps) config now

namespace Namesakes

/-- A release manager may admit members to a draft. -/
def template : Table.New Lifecycle.LifecycleTemplate.id where
  row id :=
    { id := id
      tenant_id := 1
      entity_type := "release"
      name := "Trains"
      description := none
      is_default := true
      applies_to_kind := none
      definition :=
        { states := [⟨"draft", none, Dict.empty⟩]
          transitions := []
          field_permissions := Dict.empty
          action_permissions := some
            { items := [("draft",
                { items := [("membership.admit", [Role.RELEASE_MANAGER])]
                  keys_nodup := by simp })]
              keys_nodup := by simp } }
      deleted_at := none }
  key_row _ := rfl

/-- An enterprise release and two project releases of one name. -/
def statuses : Statuses.Db :=
  { Sample.statuses with
    templates := Table.empty.insert template
    releases := Table.empty.insert_all
      [Sample.release "enterprise", Sample.release "project", Sample.release "project"] }

/-- The first project changes the one system and the second tests it. -/
def contents : Contents where
  raid := Raid.Db.opened ⟨[], [], []⟩
  systems := Table.empty.insert ⟨fun id => ⟨id, 1, "Payments", none⟩, fun _ => rfl⟩
  release_systems := (Table.empty.insert ⟨fun id => ⟨id, 1, 2, 1, "changing"⟩, fun _ => rfl⟩).insert
    ⟨fun id => ⟨id, 1, 3, 1, "regression"⟩, fun _ => rfl⟩
  linked_once := by decide

/-- Both are admitted. -/
def requests : List RollupRequest :=
  [.members (.request_membership Sample.manager 1 2 none 0),
    .members (.request_membership Sample.manager 1 3 none 0),
    .members (.accept_membership Sample.manager 1 0),
    .members (.accept_membership Sample.manager 2 0)]

def db : RollupDb :=
  run (RollupDb.step Bookings.Sample.ext) ⟨Db.opened statuses, contents⟩ requests

def named (release_kind name : String) : Table.New Statuses.Release.id where
  row id := { (Sample.release release_kind).row id with name := name }
  key_row _ := rfl

/-- The same releases, under names of their own. -/
def apart : RollupDb where
  members := Db.opened { statuses with
    releases := Table.empty.insert_all
      [named "enterprise" "Wave", named "project" "Spring", named "project" "Summer"] }
  contents := contents

end Namesakes

/-- The roles of two names stand apart. -/
theorem rollups_exact_apart :
    let db := run (RollupDb.step Bookings.Sample.ext) Namesakes.apart Namesakes.requests
    _accepted_child_ids db.members 1 1 = [2, 3] ∧ Exact db 1 1 ⟨[], [], []⟩ 0 := by
  have hkeeps : Along (RollupDb.step Bookings.Sample.ext) KeepsMembers Namesakes.apart
      Namesakes.requests := by
    refine ⟨?_, ?_, ?_, ?_, trivial⟩ <;>
    · rintro _ - - _ - - ⟨_, _, hrequest, -⟩
      cases hrequest
  refine ⟨by decide +kernel, ((rollups_exact_iff 1 1 ⟨[], [], []⟩ 0).2 _ _ _ _ hkeeps).2 ?_⟩
  intro a r b r' ha hb _ hname
  have hids : ∀ r ∈ (run (RollupDb.step Bookings.Sample.ext) Namesakes.apart
      Namesakes.requests).members.statuses.releases.rows,
      ∀ r' ∈ (run (RollupDb.step Bookings.Sample.ext) Namesakes.apart
        Namesakes.requests).members.statuses.releases.rows, r.name = r'.name → r.id = r'.id := by
    decide +kernel
  exact Table.eq_of_key_eq ha.release_mem hb.release_mem
    (hids r ha.release_mem r' hb.release_mem hname)

/-- The roles of both stand in one list, under the one name. -/
theorem namesakes_are_merged : ¬ Exact Namesakes.db 1 1 ⟨[], [], []⟩ 0 := by
  intro h
  have happart := ((exact_iff _ _).1 h).2.2
  have hlinks : ∃ a ∈ Namesakes.db.contents.release_systems,
      ∃ b ∈ Namesakes.db.contents.release_systems,
      ∃ r ∈ Namesakes.db.members.statuses.releases,
      ∃ r' ∈ Namesakes.db.members.statuses.releases,
        (a.tenant_id = 1 ∧ b.tenant_id = 1 ∧ a.system_id = b.system_id ∧ r.id = a.release_id ∧
          r'.id = b.release_id ∧ r.name = r'.name ∧ r.id ≠ r'.id) ∧
        (∃ s ∈ Namesakes.db.contents.systems, s.id = a.system_id ∧ s.deleted_at = none) ∧
        (∃ m ∈ Namesakes.db.members.memberships, m.enterprise_release_id = 1 ∧ m.tenant_id = 1 ∧
          m.state = .accepted ∧ m.project_release_id = a.release_id) ∧
        ∃ m ∈ Namesakes.db.members.memberships, m.enterprise_release_id = 1 ∧ m.tenant_id = 1 ∧
          m.state = .accepted ∧ m.project_release_id = b.release_id := by
    decide +kernel
  obtain ⟨a, ha, b, hb, r, hr, r', hr', ⟨htenant, htenant', hsystem, hid, hid', hname, hne⟩, hs,
    hmember, hmember'⟩ := hlinks
  have hlinked : Linked Namesakes.db 1 1 a r := ⟨ha, htenant, hmember, hs, hr, hid⟩
  have hlinked' : Linked Namesakes.db 1 1 b r' :=
    ⟨hb, htenant', hmember', by rwa [← hsystem], hr', hid'⟩
  exact hne (congrArg Statuses.Release.id (happart a r b r' hlinked hlinked' hsystem hname))

end EnvMgr.Memberships
