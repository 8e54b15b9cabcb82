/-
The version shown of a component: `environment_system_service.get_environment_subsystems`
beside `version_service.list_versions`.

One service takes the greatest `installed_at` of each subsystem, joins the rows that have it and
keeps the last of them that the database returns. The other numbers the rows by `installed_at` and
then `id`, and keeps the first. The two show the same as long as the rows that share the latest
instant do, and one of them is the tenant's.
-/
import EnvMgr.Components.Model
import Mathlib.Data.Finset.Max

namespace EnvMgr.Components

open Bookings (Json)
open Deployments (EnvironmentSubSystemVersion)
open Contents (System)
open Scanning (SubSystem)

variable {r : EnvironmentSubSystem}

/-! ## The service -/

structure VersionSummary where
  build_identifier : String
  version_label : String
  installed_at : DateTime
  deriving DecidableEq

def summary (v : EnvironmentSubSystemVersion) : VersionSummary :=
  ⟨v.build_identifier, v.version_label, v.installed_at⟩

structure EnvironmentSubsystemResponse where
  id : ℕ
  environment_id : ℕ
  subsystem_id : ℕ
  subsystem_name : String
  component_type : String
  component_type_definition_id : Option ℕ
  component_type_definition_name : Option String
  technology : Option String
  system_id : ℕ
  system_name : String
  is_mocked : Bool
  mock_notes : Option String
  custom_fields : Option (Dict Json)
  latest_version : Option VersionSummary
  deriving DecidableEq

section

variable (db : Db) (env_id tenant_id : ℕ)

/-- The rows of the environment. -/
def components : List EnvironmentSubSystem :=
  db.environment_subsystems.select fun r => r.environment_id = env_id ∧ r.tenant_id = tenant_id

/-- `latest_version_subq`: the greatest `installed_at` of a subsystem. -/
def max_installed (subsystem_ids : List ℕ) (subsystem_id : ℕ) : Option DateTime :=
  ((db.versions.select fun v =>
      v.environment_id = env_id ∧ v.subsystem_id ∈ subsystem_ids ∧
        v.subsystem_id = subsystem_id).map EnvironmentSubSystemVersion.installed_at).max?

/-- `version_map`: of the rows that are joined the last one wins. -/
def version_map (subsystem_ids : List ℕ) : Index ℕ EnvironmentSubSystemVersion :=
  Index.collect (fun v => some v.subsystem_id)
    (db.versions.select fun v =>
      v.environment_id = env_id ∧
        max_installed db env_id subsystem_ids v.subsystem_id = some v.installed_at)

def subsystem_map (subsystem_ids : List ℕ) : Index ℕ SubSystem :=
  Index.collect (fun s => some s.id) (db.subsystems.select fun s => s.id ∈ subsystem_ids)

/-- `sub.system.name`, of a deleted system too. -/
def system_name (system_id : ℕ) : String :=
  match db.systems.select_one fun y => y.id = system_id with
  | some y => y.name
  | none => s!"System#{system_id}"

def component_type_definition_name (r : EnvironmentSubSystem) : Option String := do
  let id ← r.component_type_definition_id
  let definition ← db.component_types.select_one fun t => t.id = id
  some definition.name

def response (versions : Index ℕ EnvironmentSubSystemVersion) (r : EnvironmentSubSystem)
    (sub : SubSystem) : EnvironmentSubsystemResponse where
  id := r.id
  environment_id := r.environment_id
  subsystem_id := r.subsystem_id
  subsystem_name := sub.name
  component_type := sub.component_type
  component_type_definition_id := r.component_type_definition_id
  component_type_definition_name := component_type_definition_name db r
  technology := sub.technology
  system_id := sub.system_id
  system_name := system_name db sub.system_id
  is_mocked := r.is_mocked
  mock_notes := r.mock_notes
  custom_fields := r.custom_fields
  latest_version := (versions.get r.subsystem_id).map summary

def get_environment_subsystems : Except Raised (List EnvironmentSubsystemResponse) := do
  let _ ← get_environment db env_id tenant_id
  let rows := components db env_id tenant_id
  let subsystem_ids := rows.map fun r => r.subsystem_id
  let subsystems := subsystem_map db subsystem_ids
  let versions := version_map db env_id subsystem_ids
  .ok (rows.filterMap fun r => (subsystems.get r.subsystem_id).map (response db versions r))

end

/-! ## The property and its condition -/

/-- The version that `list_versions(current_only)` selects for a subsystem, among those it
returns. -/
def selected (rows : List EnvironmentSubSystemVersion) (subsystem_id : ℕ) :
    Option EnvironmentSubSystemVersion :=
  rows.find? fun v => v.subsystem_id = subsystem_id

/-- In whatever order either of them reads its rows, the version that the one service shows of a
component is the one the other selects. -/
def Agree (db : Db) (env_id tenant_id : ℕ) : Prop :=
  ∀ db' db'', Reread db db' → Reread db db'' → ∀ shown rows total,
    get_environment_subsystems db' env_id tenant_id = .ok shown →
    Deployments.list_versions db''.deployments env_id tenant_id true none = .ok (rows, total) →
    ∀ r ∈ shown, r.latest_version = (selected rows r.subsystem_id).map summary

/-- No row of the pair was installed later. -/
def Latest (db : Db) (env_id subsystem_id : ℕ) (v : EnvironmentSubSystemVersion) : Prop :=
  v ∈ db.versions ∧ v.environment_id = env_id ∧ v.subsystem_id = subsystem_id ∧
    ∀ w ∈ db.versions, w.environment_id = env_id → w.subsystem_id = subsystem_id →
      w.installed_at ≤ v.installed_at

/-- Of each component of the environment, the rows installed last have one build and one label,
and one of them is the tenant's. -/
def Undisputed (db : Db) (env_id tenant_id : ℕ) : Prop :=
  (∃ env, get_environment db env_id tenant_id = .ok env) →
    ∀ r ∈ components db env_id tenant_id, ∀ v, Latest db env_id r.subsystem_id v →
      (∃ w, Latest db env_id r.subsystem_id w ∧ w.tenant_id = tenant_id) ∧
      ∀ w, Latest db env_id r.subsystem_id w →
        w.build_identifier = v.build_identifier ∧ w.version_label = v.version_label

/-! ## What each of them shows -/

section

variable {db db' : Db} {env_id tenant_id subsystem_id : ℕ} {subsystem_ids : List ℕ}
  {v w : EnvironmentSubSystemVersion}

theorem latest_reread_iff (h : Reread db db') :
    Latest db' env_id subsystem_id v ↔ Latest db env_id subsystem_id v := by
  simp only [Latest, h.versions.mem_iff]

theorem max_installed_eq_some (hid : subsystem_id ∈ subsystem_ids) {at_ : DateTime} :
    max_installed db env_id subsystem_ids subsystem_id = some at_ ↔
      ∃ v, Latest db env_id subsystem_id v ∧ v.installed_at = at_ := by
  rw [max_installed, List.max?_eq_some_iff]
  simp only [List.mem_map, Table.mem_select, decide_eq_true_eq, Latest]
  constructor
  · rintro ⟨⟨v, ⟨hv, henv, -, hsub⟩, rfl⟩, hmax⟩
    refine ⟨v, ⟨hv, henv, hsub, fun w hw henv' hsub' => ?_⟩, rfl⟩
    exact hmax w.installed_at ⟨w, ⟨hw, henv', hsub' ▸ hid, hsub'⟩, rfl⟩
  · rintro ⟨v, ⟨hv, henv, hsub, hmax⟩, rfl⟩
    refine ⟨⟨v, ⟨hv, henv, hsub ▸ hid, hsub⟩, rfl⟩, ?_⟩
    rintro _ ⟨w, ⟨hw, henv', -, hsub'⟩, rfl⟩
    exact hmax w hw henv' hsub'

/-- The rows that are joined. -/
theorem joined_iff (hid : v.subsystem_id ∈ subsystem_ids) :
    v ∈ db.versions ∧ v.environment_id = env_id ∧
        max_installed db env_id subsystem_ids v.subsystem_id = some v.installed_at ↔
      Latest db env_id v.subsystem_id v := by
  rw [max_installed_eq_some hid]
  constructor
  · rintro ⟨hv, henv, w, hw, hat⟩
    exact ⟨hv, henv, rfl, fun u hu henv' hsub' => (hw.2.2.2 u hu henv' hsub').trans_eq hat⟩
  · intro h
    exact ⟨h.1, h.2.1, v, h, rfl⟩

theorem version_map_latest (hid : subsystem_id ∈ subsystem_ids)
    (h : (version_map db env_id subsystem_ids).get subsystem_id = some v) :
    Latest db env_id subsystem_id v := by
  obtain ⟨hv, hsub⟩ := Index.get_collect_some h
  rw [Table.mem_select, decide_eq_true_eq] at hv
  obtain rfl := Option.some.inj hsub
  exact (joined_iff hid).1 hv

theorem version_map_none (hid : subsystem_id ∈ subsystem_ids)
    (h : (version_map db env_id subsystem_ids).get subsystem_id = none) :
    ¬ Latest db env_id subsystem_id v := by
  intro hv
  rw [Index.get_eq_none, version_map, Index.mem_keys_collect] at h
  obtain ⟨-, -, rfl, -⟩ := id hv
  exact h ⟨v, Table.mem_select.2 ⟨hv.1, decide_eq_true ((joined_iff hid).2 hv).2⟩, rfl⟩

/-- Where the database returns a row last, the fold keeps it. -/
theorem version_map_last (hid : subsystem_id ∈ subsystem_ids) (h : Latest db env_id subsystem_id v)
    {rest : List EnvironmentSubSystemVersion} (hrows : db.versions.rows = rest ++ [v]) :
    (version_map db env_id subsystem_ids).get subsystem_id = some v := by
  obtain ⟨-, -, rfl, -⟩ := id h
  rw [version_map, Index.get_collect, Table.select, hrows, List.filter_append,
    List.filter_singleton, decide_eq_true ((joined_iff hid).2 h).2]
  simp

theorem mem_subsystem_map {s : SubSystem} (hs : s ∈ db.subsystems)
    (hid : s.id ∈ subsystem_ids) : (subsystem_map db subsystem_ids).get s.id = some s := by
  refine Index.get_collect_of_unique (Table.mem_select.2 ⟨hs, decide_eq_true hid⟩) rfl ?_
  intro s' hs' hkey
  exact Table.eq_of_key_eq (Table.mem_select.1 hs').1 hs (Option.some.inj hkey)

/-- A current version is one of the rows installed last, if the tenant has one of these. -/
theorem current_of_latest (hw : Latest db env_id subsystem_id w) (htenant : w.tenant_id = tenant_id)
    (hv : v ∈ Deployments.current_versions db.deployments env_id tenant_id)
    (hsub : v.subsystem_id = subsystem_id) : Latest db env_id subsystem_id v := by
  rw [Deployments.mem_current_versions] at hv
  obtain ⟨hmem, hrank⟩ := hv
  obtain ⟨hv, hof⟩ := Table.mem_select.1 hmem
  have hwmem : w ∈ Deployments.history db.deployments env_id tenant_id :=
    Table.mem_select.2 ⟨hw.1, decide_eq_true ⟨hw.2.1, htenant⟩⟩
  have hle : w.installed_at ≤ v.installed_at :=
    Prod.Lex.monotone_fst _ _ (hrank w hwmem (hw.2.2.1.trans hsub.symm))
  exact ⟨hv, (of_decide_eq_true hof).1, hsub,
    fun u hu henv hsub' => (hw.2.2.2 u hu henv hsub').trans hle⟩

/-- Of the rows that satisfy `p`, one has the greatest key. -/
theorem exists_greatest {κ : Type*} [LinearOrder κ] (key : EnvironmentSubSystemVersion → κ)
    {rows : List EnvironmentSubSystemVersion} {p : EnvironmentSubSystemVersion → Prop}
    [DecidablePred p] (hw : w ∈ rows) (hp : p w) :
    ∃ v ∈ rows, p v ∧ ∀ u ∈ rows, p u → key u ≤ key v := by
  obtain ⟨v, hv, hmax⟩ := Finset.exists_max_image (rows.filter fun v => p v).toFinset key
    ⟨w, List.mem_toFinset.2 (List.mem_filter.2 ⟨hw, decide_eq_true hp⟩)⟩
  obtain ⟨hv, hpv⟩ := List.mem_filter.1 (List.mem_toFinset.1 hv)
  refine ⟨v, hv, of_decide_eq_true hpv, fun u hu hpu => hmax u ?_⟩
  exact List.mem_toFinset.2 (List.mem_filter.2 ⟨hu, decide_eq_true hpu⟩)

/-- The tenant's row of the highest rank is current. -/
theorem exists_current (hw : w ∈ Deployments.history db.deployments env_id tenant_id) :
    ∃ v ∈ Deployments.current_versions db.deployments env_id tenant_id,
      v.subsystem_id = w.subsystem_id := by
  obtain ⟨v, hv, hsub, hmax⟩ := exists_greatest EnvironmentSubSystemVersion.rank
    (p := fun v => v.subsystem_id = w.subsystem_id) hw rfl
  exact ⟨v, Deployments.mem_current_versions.2 ⟨hv, fun u hu husub => hmax u hu (husub.trans hsub)⟩,
    hsub⟩

theorem exists_latest (hw : w ∈ db.versions) (henv : w.environment_id = env_id) :
    ∃ v, Latest db env_id w.subsystem_id v := by
  obtain ⟨v, hv, ⟨henv', hsub⟩, hmax⟩ := exists_greatest EnvironmentSubSystemVersion.installed_at
    (p := fun v => v.environment_id = env_id ∧ v.subsystem_id = w.subsystem_id)
    (Table.mem_def.1 hw) ⟨henv, rfl⟩
  exact ⟨v, hv, henv', hsub, fun u hu henv'' hsub' => hmax u hu ⟨henv'', hsub'⟩⟩

/-- The database may return any row last. -/
theorem exists_returned_last (hv : v ∈ db.versions) :
    ∃ db', Reread db db' ∧ ∃ rest, db'.versions.rows = rest ++ [v] := by
  obtain ⟨versions, hreordered, hrows⟩ := Table.exists_back hv
  exact ⟨{ db with deployments := { db.deployments with versions := versions } },
    { Reread.refl db with versions := hreordered }, hrows⟩

end

/-! ## Where they agree -/

section

variable {db db' : Db} {env_id tenant_id : ℕ} {v : EnvironmentSubSystemVersion}

theorem mem_components :
    r ∈ components db env_id tenant_id ↔
      r ∈ db.environment_subsystems ∧ r.environment_id = env_id ∧ r.tenant_id = tenant_id := by
  rw [components, Table.mem_select, decide_eq_true_eq]

theorem mem_components_reread (h : Reread db db') :
    r ∈ components db' env_id tenant_id ↔ r ∈ components db env_id tenant_id := by
  rw [mem_components, mem_components, h.environment_subsystems.mem_iff]

/-- Every component is shown, with what the fold kept for its subsystem. -/
theorem mem_shown {shown : List EnvironmentSubsystemResponse}
    (h : get_environment_subsystems db env_id tenant_id = .ok shown) :
    (∃ env, get_environment db env_id tenant_id = .ok env) ∧
      (∀ r ∈ components db env_id tenant_id, ∃ e ∈ shown, e.subsystem_id = r.subsystem_id ∧
        e.latest_version = ((version_map db env_id ((components db env_id tenant_id).map
          fun r => r.subsystem_id)).get r.subsystem_id).map summary) ∧
      ∀ e ∈ shown, ∃ r ∈ components db env_id tenant_id, e.subsystem_id = r.subsystem_id ∧
        e.latest_version = ((version_map db env_id ((components db env_id tenant_id).map
          fun r => r.subsystem_id)).get r.subsystem_id).map summary := by
  simp only [get_environment_subsystems, bind_eq_ok, Except.ok.injEq] at h
  obtain ⟨env, henv, rfl⟩ := h
  refine ⟨⟨env, henv⟩, fun r hr => ?_, fun e he => ?_⟩
  · obtain ⟨s, hs, hid⟩ := db.fk_subsystem r (mem_components.1 hr).1
    have hlisted : s.id ∈ (components db env_id tenant_id).map fun r => r.subsystem_id :=
      List.mem_map.2 ⟨r, hr, hid.symm⟩
    have hsub := mem_subsystem_map hs hlisted
    rw [hid] at hsub
    exact ⟨_, List.mem_filterMap.2 ⟨r, hr, congrArg (Option.map _) hsub⟩, rfl, rfl⟩
  · obtain ⟨r, hr, hsome⟩ := List.mem_filterMap.1 he
    obtain ⟨s, -, rfl⟩ := Option.map_eq_some_iff.1 hsome
    exact ⟨r, hr, rfl, rfl⟩

theorem listed_id (hr : r ∈ components db env_id tenant_id) :
    r.subsystem_id ∈ (components db env_id tenant_id).map fun r => r.subsystem_id :=
  List.mem_map.2 ⟨r, hr, rfl⟩

theorem list_versions_iff {rows : List EnvironmentSubSystemVersion} {total : ℕ} :
    Deployments.list_versions db.deployments env_id tenant_id true none = .ok (rows, total) ↔
      (∃ env, get_environment db env_id tenant_id = .ok env) ∧
        rows = Deployments.current_versions db.deployments env_id tenant_id ∧
        total = rows.length := by
  simp only [Deployments.list_versions, Deployments.fetch_page, get_environment, if_true,
    bind_eq_ok, Except.ok.injEq, Prod.mk.injEq]
  constructor
  · rintro ⟨env, henv, rfl, rfl⟩
    exact ⟨⟨env, henv⟩, rfl, rfl⟩
  · rintro ⟨⟨env, henv⟩, rfl, rfl⟩
    exact ⟨env, henv, rfl, rfl⟩

theorem selected_eq_some {subsystem_id : ℕ}
    (h : selected (Deployments.current_versions db.deployments env_id tenant_id) subsystem_id
      = some v) :
    v ∈ Deployments.current_versions db.deployments env_id tenant_id ∧
      v.subsystem_id = subsystem_id :=
  ⟨List.mem_of_find?_eq_some h, by simpa using List.find?_some h⟩

theorem exists_shown (henv : ∃ env, get_environment db env_id tenant_id = .ok env) :
    ∃ shown, get_environment_subsystems db env_id tenant_id = .ok shown := by
  obtain ⟨env, henv⟩ := henv
  exact ⟨_, bind_eq_ok.2 ⟨env, henv, rfl⟩⟩

end

section

variable {db : Db} {env_id tenant_id : ℕ}

/-- Whichever of the latest rows comes last, the other service selects one that looks like it. -/
theorem selects_latest (hagree : Agree db env_id tenant_id)
    (henv : ∃ env, get_environment db env_id tenant_id = .ok env)
    (hr : r ∈ components db env_id tenant_id) {v : EnvironmentSubSystemVersion}
    (hv : Latest db env_id r.subsystem_id v) :
    (selected (Deployments.current_versions db.deployments env_id tenant_id)
      r.subsystem_id).map summary = some (summary v) := by
  obtain ⟨db', hreread, rest, hrows⟩ := exists_returned_last hv.1
  have henv' : ∃ env, get_environment db' env_id tenant_id = .ok env := by
    rw [get_environment_reread hreread]
    exact henv
  obtain ⟨shown, hshown⟩ := exists_shown henv'
  obtain ⟨e, he, hsub, hlatest⟩ :=
    (mem_shown hshown).2.1 r ((mem_components_reread hreread).2 hr)
  have hlast := version_map_last (listed_id ((mem_components_reread hreread).2 hr))
    ((latest_reread_iff hreread).2 hv) hrows
  rw [← hsub, ← hagree _ db hreread (Reread.refl db) shown _ _ hshown
    (list_versions_iff.2 ⟨henv, rfl, rfl⟩) e he, hlatest, hlast, Option.map_some]

/-- Where nothing was kept there is nothing to select. -/
theorem selects_none {subsystem_id : ℕ} (hnone : ∀ v, ¬ Latest db env_id subsystem_id v) :
    selected (Deployments.current_versions db.deployments env_id tenant_id) subsystem_id
      = none := by
  refine List.find?_eq_none.2 fun c hc hsub => ?_
  obtain ⟨hmem, hof⟩ := Table.mem_select.1 (Deployments.mem_current_versions.1 hc).1
  obtain ⟨v, hv⟩ := exists_latest hmem (of_decide_eq_true hof).1
  rw [of_decide_eq_true hsub] at hv
  exact hnone v hv

/-- Where the latest rows look the same, the one that is selected looks like any of them. -/
theorem selects_undisputed {subsystem_id : ℕ} {v w : EnvironmentSubSystemVersion}
    (hv : Latest db env_id subsystem_id v) (hw : Latest db env_id subsystem_id w)
    (htenant : w.tenant_id = tenant_id) (hlooks : ∀ u, Latest db env_id subsystem_id u →
      u.build_identifier = v.build_identifier ∧ u.version_label = v.version_label) :
    (selected (Deployments.current_versions db.deployments env_id tenant_id)
      subsystem_id).map summary = some (summary v) := by
  have hwmem : w ∈ Deployments.history db.deployments env_id tenant_id :=
    Table.mem_select.2 ⟨hw.1, decide_eq_true ⟨hw.2.1, htenant⟩⟩
  obtain ⟨c, hc, hcsub⟩ := exists_current hwmem
  cases hselected : selected (Deployments.current_versions db.deployments env_id tenant_id)
      subsystem_id with
  | none =>
    have hnone := List.find?_eq_none.1 hselected c hc
    exact absurd (decide_eq_true (hcsub.trans hw.2.2.1)) hnone
  | some c' =>
    obtain ⟨hcurrent, hsub⟩ := selected_eq_some hselected
    have hlatest := current_of_latest hw htenant hcurrent hsub
    obtain ⟨hbuild, hlabel⟩ := hlooks c' hlatest
    have hat : c'.installed_at = v.installed_at :=
      le_antisymm (hv.2.2.2 c' hlatest.1 hlatest.2.1 hlatest.2.2.1)
        (hlatest.2.2.2 v hv.1 hv.2.1 hv.2.2.1)
    rw [Option.map_some, summary, summary, hbuild, hlabel, hat]

/-- **When the two show the same version**: whatever the order of the rows, if and only if, of
each component, the rows installed last look the same and one of them is the tenant's. -/
theorem agree_iff_undisputed (db : Db) (env_id tenant_id : ℕ) :
    Agree db env_id tenant_id ↔ Undisputed db env_id tenant_id := by
  constructor
  · intro hagree henv r hr v hv
    have hshown := selects_latest hagree henv hr hv
    obtain ⟨c, hc, hlooks⟩ := Option.map_eq_some_iff.1 hshown
    obtain ⟨hcurrent, hsub⟩ := selected_eq_some hc
    obtain ⟨hmem, hof⟩ := Table.mem_select.1 (Deployments.mem_current_versions.1 hcurrent).1
    have hat : c.installed_at = v.installed_at := congrArg VersionSummary.installed_at hlooks
    refine ⟨⟨c, ⟨hmem, (of_decide_eq_true hof).1, hsub, ?_⟩, (of_decide_eq_true hof).2⟩, ?_⟩
    · intro w hw henv' hsub'
      exact (hv.2.2.2 w hw henv' hsub').trans_eq hat.symm
    · intro w hw
      have hsame := Option.some.inj ((selects_latest hagree henv hr hw).symm.trans hshown)
      exact ⟨congrArg VersionSummary.build_identifier hsame,
        congrArg VersionSummary.version_label hsame⟩
  · intro hsame db' db'' hreread hreread' shown rows total hshown hlist e he
    obtain ⟨henv', -, hback⟩ := mem_shown hshown
    have henv : ∃ env, get_environment db env_id tenant_id = .ok env := by
      rw [← get_environment_reread hreread]
      exact henv'
    obtain ⟨r, hr, hsub, hlatest⟩ := hback e he
    obtain ⟨-, rfl, -⟩ := list_versions_iff.1 hlist
    rw [hlatest, hsub, current_versions_reread hreread']
    cases hkept : (version_map db' env_id ((components db' env_id tenant_id).map
        fun r => r.subsystem_id)).get r.subsystem_id with
    | none =>
      have hnone : ∀ v, ¬ Latest db env_id r.subsystem_id v := fun v hv =>
        version_map_none (listed_id hr) hkept ((latest_reread_iff hreread).2 hv)
      rw [selects_none hnone]
    | some v =>
      have hv : Latest db env_id r.subsystem_id v :=
        (latest_reread_iff hreread).1 (version_map_latest (listed_id hr) hkept)
      obtain ⟨⟨w, hw, htenant⟩, hlooks⟩ :=
        hsame henv r ((mem_components_reread hreread).1 hr) v hv
      rw [selects_undisputed hv hw htenant hlooks, Option.map_some]

end

namespace Sample

def version (id : ℕ) (label : String) : EnvironmentSubSystemVersion :=
  ⟨id, 1, 1, 1, "4f2a", none, label, 0⟩

/-- One environment, and one component of it; two versions that were installed at one moment. -/
def db (versions : Table EnvironmentSubSystemVersion EnvironmentSubSystemVersion.id) : Db where
  deployments :=
    { statuses := Statuses.Db.seeded Table.empty Table.empty
        (Table.empty.insert ⟨fun id => ⟨id, 1, "staging", .active, none, none, none⟩, fun _ => rfl⟩)
        ⟨[], [], [], [], [], []⟩ ⟨[], [], [], [], []⟩
      versions := versions
      clock := 0 }
  systems := Table.empty
  subsystems := Table.empty.insert
    ⟨fun id => ⟨id, 1, 1, "api", "web_service", none, .MANUAL, none, none⟩, fun _ => rfl⟩
  environment_systems := Table.empty
  environment_subsystems := Table.empty.insert
    ⟨fun id => ⟨⟨id, 1, 1, 1, false⟩, none, none, none⟩, fun _ => rfl⟩
  component_types := Table.empty
  hosts := Table.empty
  infrastructure := Table.empty
  uq_env_subsystem := by decide
  fk_subsystem := by decide

def first_first : Table EnvironmentSubSystemVersion EnvironmentSubSystemVersion.id :=
  ⟨[version 1 "1.0", version 2 "1.1"], 3, by decide, by decide⟩

def second_first : Table EnvironmentSubSystemVersion EnvironmentSubSystemVersion.id :=
  ⟨[version 2 "1.1", version 1 "1.0"], 3, by decide, by decide⟩

end Sample

/-- **A tie that the two break differently**: with the second row returned first, the first one
is shown, and the second one is selected. -/
theorem tie_is_shown_differently : ¬ Agree (Sample.db Sample.first_first) 1 1 := by
  intro h
  have hreread : Reread (Sample.db Sample.first_first) (Sample.db Sample.second_first) :=
    { Reread.refl (Sample.db Sample.first_first) with
      versions := List.Perm.swap _ _ _ }
  have hshown : ∃ shown, get_environment_subsystems (Sample.db Sample.second_first) 1 1
      = .ok shown ∧ ∃ r ∈ shown, r.subsystem_id = 1 ∧
        r.latest_version = some ⟨"4f2a", "1.0", 0⟩ := ⟨_, rfl, by decide⟩
  have hselected : ∃ rows total, Deployments.list_versions
      (Sample.db Sample.first_first).deployments 1 1 true none = .ok (rows, total) ∧
        (selected rows 1).map summary = some ⟨"4f2a", "1.1", 0⟩ := ⟨_, _, rfl, by decide +kernel⟩
  obtain ⟨shown, hok, r, hr, hsub, hfirst⟩ := hshown
  obtain ⟨rows, total, hlist, hsecond⟩ := hselected
  have hsame := h _ _ hreread (Reread.refl _) shown rows total hok hlist r hr
  rw [hsub, hfirst, hsecond] at hsame
  exact absurd hsame (by decide)

end EnvMgr.Components
