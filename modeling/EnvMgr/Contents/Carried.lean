/-
Operations on environments, and runs.

Assigning a system, removing one and deleting an environment leave every live environment
in step with the catalogue. So a run does too, as long as no subsystem is created or
deleted in a system that is assigned to a live environment.
-/
import EnvMgr.Contents.Follows

namespace EnvMgr.Contents

open Runs (Along Always)
open Scanning (DeclaredState SubSystem)

variable {db db' : Db} {env_id system_id tenant_id : ℕ} {now : DateTime}

/-! ## Assigning a system -/

/-- The rows and the assignment that are added. -/
theorem add_system_ok (h : add_system_to_environment db env_id system_id tenant_id = .ok db') :
    (∃ e ∈ db.environments, e.id = env_id ∧ e.tenant_id = tenant_id) ∧
      (∃ y ∈ db.systems, y.id = system_id ∧ y.tenant_id = tenant_id) ∧
      ¬ Assigned db env_id system_id ∧
      db'.environments = db.environments ∧ db'.systems = db.systems ∧
      db'.catalogue = db.catalogue ∧
      db'.environment_systems =
        db.environment_systems.insert (assignment env_id system_id tenant_id) ∧
      ∀ r, (r ∈ db.environment_subsystems → r ∈ db'.environment_subsystems) ∧
        (r ∈ db'.environment_subsystems → r ∈ db.environment_subsystems ∨
          (r.environment_id = env_id ∧ r.tenant_id = tenant_id ∧
            ∃ s ∈ db.catalogue.subsystems, s.Listed system_id tenant_id ∧ r.subsystem_id = s.id)) ∧
        ∀ s ∈ db.catalogue.subsystems, s.Listed system_id tenant_id → HasRow db' env_id s.id := by
  simp only [add_system_to_environment, bind_eq_ok, raised_eq_ok, Except.ok.injEq,
    raise_if_eq_ok, not_not] at h
  obtain ⟨e, he, y, hy, existing, hexisting, _, rfl, rfl⟩ := h
  obtain ⟨hmem, hid, htenant, -⟩ := get_environment_ok he
  obtain ⟨hymem, hyid, hytenant, -⟩ := get_system_ok hy
  refine ⟨⟨e, hmem, hid, htenant⟩, ⟨y, hymem, hyid, hytenant⟩, ?_, rfl, rfl, rfl, rfl, fun r => ?_⟩
  · rintro ⟨a, ha, hass⟩
    simp only [Lifecycle.scalar_one_or_none, bind_eq_ok, Except.ok.injEq,
      List.head?_eq_none_iff] at hexisting
    obtain ⟨_, -, hnone⟩ := hexisting
    have hfound : a ∈ db.environment_systems.select fun a =>
        a.environment_id = env_id ∧ a.system_id = system_id :=
      Table.mem_select.2 ⟨ha, decide_eq_true hass⟩
    rw [hnone] at hfound
    cases hfound
  · refine ⟨fun hr => Table.mem_insert_all.2 (Or.inl hr), fun hr => ?_, fun s hs hlisted => ?_⟩
    · rcases Table.mem_insert_all.1 hr with hr | ⟨i, new, hget, rfl⟩
      · exact Or.inl hr
      · obtain ⟨s, hs, rfl⟩ := List.mem_map.1 (List.mem_of_getElem? hget)
        obtain ⟨hmem, hlisted⟩ := Table.mem_select.1 (List.mem_of_mem_filter hs)
        exact Or.inr ⟨rfl, rfl, s, hmem, of_decide_eq_true hlisted, rfl⟩
    · by_cases hold : ∃ r ∈ db.environment_subsystems, r.environment_id = env_id ∧
          r.subsystem_id = s.id
      · obtain ⟨r, hr, hrow⟩ := hold
        exact ⟨r, Table.mem_insert_all.2 (Or.inl hr), hrow⟩
      · have hnew : s ∈ (db.catalogue.subsystems.select fun s =>
            s.system_id = system_id ∧ s.tenant_id = tenant_id ∧ s.deleted_at = none).filter
              fun s => ¬ ∃ r ∈ db.environment_subsystems, r.environment_id = env_id ∧
                r.subsystem_id = s.id :=
          List.mem_filter.2 ⟨Table.mem_select.2 ⟨hs, decide_eq_true hlisted⟩, decide_eq_true hold⟩
        obtain ⟨i, hget⟩ := List.mem_iff_getElem?.1
          (List.mem_map_of_mem (f := materialised env_id tenant_id) hnew)
        exact ⟨_, Table.mem_insert_all.2 (Or.inr ⟨i, _, hget, rfl⟩), rfl, rfl⟩

theorem add_system_sound (hs : Sound db)
    (h : add_system_to_environment db env_id system_id tenant_id = .ok db') : Sound db' := by
  obtain ⟨henv, hsystem, hfree, henvs, hsystems, hcat, hass, hrows⟩ := add_system_ok h
  refine ⟨?_, ?_, ?_, ?_, ?_⟩
  · rw [hcat, hsystems]
    exact hs.subsystem_system
  · rw [hass, hsystems]
    exact (Table.forall_insert_iff hs.assigned_system).2 hsystem
  · rw [hass]
    refine Table.unique_insert (fun h => ⟨h.1.symm, h.2.symm⟩) hs.uq_env_system ?_
    intro a ha hsame
    exact hfree ⟨a, ha, hsame⟩
  · intro r hr
    rw [hcat]
    rcases (hrows r).2.1 hr with hr | ⟨-, -, s, hmem, -, hid⟩
    · exact hs.row_subsystem r hr
    · exact ⟨s, hmem, hid.symm⟩
  · intro r hr
    rw [henvs]
    rcases (hrows r).2.1 hr with hr | ⟨hid, htenant, -⟩
    · exact hs.row_environment r hr
    · rw [hid, htenant]
      exact henv

theorem add_system_follows (hs : Sound db) (hi : Follows db)
    (h : add_system_to_environment db env_id system_id tenant_id = .ok db') : Follows db' := by
  obtain ⟨-, ⟨y, hy, hyid, hytenant⟩, -, henvs, -, hcat, hass, hrows⟩ := add_system_ok h
  have hassigned : ∀ env_id' system_id', Assigned db' env_id' system_id' ↔
      Assigned db env_id' system_id' ∨ (env_id = env_id' ∧ system_id = system_id') := by
    intro env_id' system_id'
    rw [Assigned, hass]
    constructor
    · rintro ⟨a, ha, hsame⟩
      rcases Table.mem_insert.1 ha with ha | rfl
      · exact Or.inl ⟨a, ha, hsame⟩
      · exact Or.inr hsame
    · rintro (⟨a, ha, hsame⟩ | hsame)
      · exact ⟨a, Table.mem_insert.2 (Or.inl ha), hsame⟩
      · exact ⟨_, Table.mem_insert.2 (Or.inr rfl), hsame⟩
  have hlive : ∀ system_id' n, Live db' system_id' n ↔ Live db system_id' n := by
    intro system_id' n
    rw [Live, Live, hcat]
  intro e he hdel n
  rw [henvs] at he
  simp only [hassigned, hlive]
  constructor
  · rintro ⟨r, hr, hrow, rfl⟩
    rcases (hrows r).2.1 hr with hr | ⟨hid, -, s, hmem, hlisted, hsub⟩
    · obtain ⟨system_id', hass', hlive'⟩ := (hi e he hdel _).1 ⟨r, hr, hrow, rfl⟩
      exact ⟨system_id', Or.inl hass', hlive'⟩
    · exact ⟨system_id, Or.inr ⟨hid.symm.trans hrow, rfl⟩, s, hmem, hsub.symm, hlisted.1,
        hlisted.2.2⟩
  · rintro ⟨system_id', hass' | ⟨rfl, rfl⟩, hlive'⟩
    · obtain ⟨r, hr, hrow⟩ := (hi e he hdel n).2 ⟨system_id', hass', hlive'⟩
      exact ⟨r, (hrows r).1 hr, hrow⟩
    · obtain ⟨s, hmem, rfl, hsys, hdel'⟩ := hlive'
      have htenant : s.tenant_id = tenant_id :=
        (hs.tenant_eq hmem hy (hyid.trans hsys.symm)).trans hytenant
      -- the last part of `hrows` does not depend on the row
      exact (hrows ⟨0, 0, 0, 0, false⟩).2.2 s hmem ⟨hsys, htenant, hdel'⟩

/-! ## Removing a system -/

theorem remove_system_ok
    (h : remove_system_from_environment db env_id system_id tenant_id = .ok db') :
    ∃ env_sys ∈ db.environment_systems,
      env_sys.environment_id = env_id ∧ env_sys.system_id = system_id ∧
      env_sys.tenant_id = tenant_id ∧
      db'.environments = db.environments ∧ db'.systems = db.systems ∧
      db'.catalogue = db.catalogue ∧
      db'.environment_systems = db.environment_systems.delete (fun a => a.id = env_sys.id) ∧
      ∀ r, r ∈ db'.environment_subsystems ↔ r ∈ db.environment_subsystems ∧
        ¬ (r.environment_id = env_id ∧ ∃ s ∈ db.catalogue.subsystems,
          s.system_id = system_id ∧ s.tenant_id = tenant_id ∧ s.id = r.subsystem_id) := by
  simp only [remove_system_from_environment, _get_env_system, bind_eq_ok, raised_eq_ok,
    get_or_raise_eq_ok, Except.ok.injEq] at h
  obtain ⟨env_sys, ⟨_, -, hfound⟩, rfl⟩ := h
  obtain ⟨hmem, hp⟩ := Table.select_one_some hfound
  obtain ⟨henv, hsystem, htenant⟩ := of_decide_eq_true hp
  refine ⟨env_sys, hmem, henv, hsystem, htenant, rfl, rfl, rfl, rfl, fun r => ?_⟩
  simp only [Table.mem_delete, decide_eq_false_iff_not, List.mem_map, Table.mem_select,
    decide_eq_true_eq, and_assoc]

theorem remove_system_sound (hs : Sound db)
    (h : remove_system_from_environment db env_id system_id tenant_id = .ok db') : Sound db' := by
  obtain ⟨env_sys, -, -, -, -, henvs, hsystems, hcat, hass, hrows⟩ := remove_system_ok h
  refine ⟨?_, ?_, ?_, ?_, ?_⟩
  · rw [hcat, hsystems]
    exact hs.subsystem_system
  · rw [hass, hsystems]
    exact fun a ha => hs.assigned_system a (Table.mem_delete.1 ha).1
  · rw [hass]
    exact fun a ha b hb => hs.uq_env_system a (Table.mem_delete.1 ha).1 b (Table.mem_delete.1 hb).1
  · rw [hcat]
    exact fun r hr => hs.row_subsystem r ((hrows r).1 hr).1
  · rw [henvs]
    exact fun r hr => hs.row_environment r ((hrows r).1 hr).1

/-- What stays assigned: `uq_env_system`, so the one row that goes takes the assignment with it. -/
theorem assigned_remove_iff (hs : Sound db)
    (h : remove_system_from_environment db env_id system_id tenant_id = .ok db')
    (env_id' system_id' : ℕ) : Assigned db' env_id' system_id' ↔
      Assigned db env_id' system_id' ∧ ¬ (env_id = env_id' ∧ system_id = system_id') := by
  obtain ⟨env_sys, hmem, rfl, rfl, -, -, -, -, hass, -⟩ := remove_system_ok h
  rw [Assigned, hass]
  constructor
  · rintro ⟨a, ha, hsame⟩
    obtain ⟨ha, hne⟩ := Table.mem_delete.1 ha
    refine ⟨⟨a, ha, hsame⟩, fun hsame' => of_decide_eq_false hne ?_⟩
    rw [hs.uq_env_system a ha env_sys hmem
      ⟨hsame.1.trans hsame'.1.symm, hsame.2.trans hsame'.2.symm⟩]
  · rintro ⟨⟨a, ha, hsame⟩, hne⟩
    refine ⟨a, Table.mem_delete.2 ⟨ha, decide_eq_false fun hid => hne ?_⟩, hsame⟩
    rwa [← Table.eq_of_key_eq ha hmem hid]

/-- What rows stay. -/
theorem hasRow_remove_iff (hs : Sound db)
    (h : remove_system_from_environment db env_id system_id tenant_id = .ok db')
    (env_id' n : ℕ) : HasRow db' env_id' n ↔ HasRow db env_id' n ∧
      ¬ (env_id = env_id' ∧ ∃ s ∈ db.catalogue.subsystems, s.system_id = system_id ∧ s.id = n) := by
  obtain ⟨env_sys, hmem, rfl, rfl, rfl, -, -, -, -, hrows⟩ := remove_system_ok h
  -- a subsystem of the system is of the tenant that asked
  have htenant : ∀ s ∈ db.catalogue.subsystems, s.system_id = env_sys.system_id →
      s.tenant_id = env_sys.tenant_id := by
    intro s hsmem hsys
    obtain ⟨y, hy, hid, hytenant⟩ := hs.assigned_system env_sys hmem
    exact (hs.tenant_eq hsmem hy (hid.trans hsys.symm)).trans hytenant
  constructor
  · rintro ⟨r, hr, rfl, rfl⟩
    obtain ⟨hr, hkept⟩ := (hrows r).1 hr
    refine ⟨⟨r, hr, rfl, rfl⟩, ?_⟩
    rintro ⟨henv, s, hsmem, hsys, hid⟩
    exact hkept ⟨henv.symm, s, hsmem, hsys, htenant s hsmem hsys, hid⟩
  · rintro ⟨⟨r, hr, rfl, rfl⟩, hkept⟩
    refine ⟨r, (hrows r).2 ⟨hr, ?_⟩, rfl, rfl⟩
    rintro ⟨henv, s, hsmem, hsys, -, hid⟩
    exact hkept ⟨henv.symm, s, hsmem, hsys, hid⟩

theorem remove_system_follows (hs : Sound db) (hi : Follows db)
    (h : remove_system_from_environment db env_id system_id tenant_id = .ok db') :
    Follows db' := by
  obtain ⟨env_sys, -, -, -, -, henvs, -, hcat, -, -⟩ := remove_system_ok h
  have hlive : ∀ system_id' n, Live db' system_id' n ↔ Live db system_id' n := by
    intro system_id' n
    rw [Live, Live, hcat]
  intro e he hdel n
  rw [henvs] at he
  rw [hasRow_remove_iff hs h, hi e he hdel n]
  simp only [assigned_remove_iff hs h, hlive]
  constructor
  · rintro ⟨⟨system_id', hass', s, hsmem, hid, hsys, hsdel⟩, hkept⟩
    refine ⟨system_id', ⟨hass', ?_⟩, s, hsmem, hid, hsys, hsdel⟩
    rintro ⟨henv, hsys'⟩
    exact hkept ⟨henv, s, hsmem, hsys.trans hsys'.symm, hid⟩
  · rintro ⟨system_id', ⟨hass', hne⟩, s, hsmem, hid, hsys, hsdel⟩
    refine ⟨⟨system_id', hass', s, hsmem, hid, hsys, hsdel⟩, ?_⟩
    -- a subsystem is of one system
    rintro ⟨henv, s', hsmem', hsys', hid'⟩
    obtain rfl := Table.eq_of_key_eq hsmem hsmem' (hid.trans hid'.symm)
    exact hne ⟨henv, hsys'.symm.trans hsys⟩

/-! ## Deleting an environment -/

theorem delete_environment_ok (h : delete_environment db env_id tenant_id now = .ok db') :
    (∀ e ∈ db'.environments, e.deleted_at = none → e ∈ db.environments ∧ e.id ≠ env_id) ∧
      (∀ e ∈ db.environments, ∃ e' ∈ db'.environments, e'.id = e.id ∧ e'.tenant_id = e.tenant_id) ∧
      db'.systems = db.systems ∧ db'.catalogue = db.catalogue ∧
      db'.environment_systems = db.environment_systems ∧
      ∀ r, r ∈ db'.environment_subsystems ↔ r ∈ db.environment_subsystems ∧
        ¬ (r.environment_id = env_id ∧ r.tenant_id = tenant_id) := by
  simp only [delete_environment, bind_eq_ok, raised_eq_ok, Except.ok.injEq] at h
  obtain ⟨env, henv, rfl⟩ := h
  obtain ⟨-, rfl, -⟩ := get_environment_ok henv
  refine ⟨fun e he hdel => ?_, fun e he => ⟨_, Table.mem_update.2 ⟨e, he, rfl⟩, ?_⟩, rfl, rfl, rfl,
    fun r => ?_⟩
  · rcases Table.mem_update_cases he with ⟨e₀, -, -, rfl⟩ | ⟨he, hne⟩
    · cases hdel
    · exact ⟨he, of_decide_eq_false hne⟩
  · split_ifs
    · exact ⟨rfl, rfl⟩
    · exact ⟨rfl, rfl⟩
  · rw [Table.mem_delete, decide_eq_false_iff_not]

theorem delete_environment_sound (hs : Sound db)
    (h : delete_environment db env_id tenant_id now = .ok db') : Sound db' := by
  obtain ⟨-, hkept, hsystems, hcat, hass, hrows⟩ := delete_environment_ok h
  refine ⟨?_, ?_, ?_, ?_, ?_⟩
  · rw [hcat, hsystems]
    exact hs.subsystem_system
  · rw [hass, hsystems]
    exact hs.assigned_system
  · rw [hass]
    exact hs.uq_env_system
  · rw [hcat]
    exact fun r hr => hs.row_subsystem r ((hrows r).1 hr).1
  · intro r hr
    obtain ⟨e, he, hid, htenant⟩ := hs.row_environment r ((hrows r).1 hr).1
    obtain ⟨e', he', hid', htenant'⟩ := hkept e he
    exact ⟨e', he', hid'.trans hid, htenant'.trans htenant⟩

theorem delete_environment_follows (hi : Follows db)
    (h : delete_environment db env_id tenant_id now = .ok db') : Follows db' := by
  obtain ⟨hlive, -, -, hcat, hass, hrows⟩ := delete_environment_ok h
  intro e he hdel n
  obtain ⟨he, hne⟩ := hlive e he hdel
  have hrow : HasRow db' e.id n ↔ HasRow db e.id n := by
    constructor
    · rintro ⟨r, hr, hrow⟩
      exact ⟨r, ((hrows r).1 hr).1, hrow⟩
    · rintro ⟨r, hr, hid, hsub⟩
      exact ⟨r, (hrows r).2 ⟨hr, fun hgone => hne (hid.symm.trans hgone.1)⟩, hid, hsub⟩
  rw [hrow, hi e he hdel n]
  simp only [Assigned, Live, hass, hcat]

/-! ## Verifying an environment -/

theorem dep_status_missing_iff {rows : Index ℕ EnvironmentSubSystem} {to_id : ℕ} :
    dep_status rows to_id = .missing ↔ rows.get to_id = none := by
  unfold dep_status
  cases rows.get to_id with
  | none => simp
  | some r => cases hmocked : r.is_mocked <;> simp [hmocked]

/-- Where the environment follows the catalogue, the verification reports exactly those
components as missing that are no live ones of a system assigned to it. -/
theorem verify_missing_iff (hs : Sound db) (hi : Follows db) {e : Environment}
    (he : e ∈ db.environments) (hdel : e.deleted_at = none) {item : ComponentVerifyItem}
    (hitem : item ∈ verify_components db e.id e.tenant_id) :
    item.status = .missing ↔
      ¬ ∃ system_id, Assigned db e.id system_id ∧ Live db system_id item.to_subsystem_id := by
  obtain ⟨d, -, rfl⟩ := List.mem_map.1 hitem
  rw [← hi e he hdel, dep_status_missing_iff, Index.get_eq_none, env_sub_map,
    Index.mem_keys_collect, not_iff_not]
  constructor
  · rintro ⟨r, hr, hid⟩
    obtain ⟨hmem, hp⟩ := Table.mem_select.1 hr
    exact ⟨r, hmem, (of_decide_eq_true hp).1, Option.some.inj hid⟩
  · rintro ⟨r, hr, henv, hid⟩
    -- the row is of the environment's own tenant
    obtain ⟨e', he', hid', htenant⟩ := hs.row_environment r hr
    rw [Table.eq_of_key_eq he' he (hid'.trans henv)] at htenant
    exact ⟨r, Table.mem_select.2 ⟨hr, decide_eq_true ⟨henv, htenant.symm⟩⟩, congrArg some hid⟩

/-! ## Runs -/

def Accepted (db : Db) (operation : Operation) : Prop := ∃ db', handle db operation = .ok db'

/-- The operation would change which subsystems are live in a system that is assigned to a
live environment. -/
def Touches (db : Db) : Operation → Prop
  | .create_subsystem system_id _ _ => InUse db system_id
  | .delete_subsystem _ system_id _ _ => InUse db system_id
  | .delete_system system_id _ _ => InUse db system_id ∧ ∃ n, Live db system_id n
  | .apply system_id tenant_id _ _ declared =>
    InUse db system_id ∧ Declares db system_id tenant_id declared
  | _ => False

theorem handle_sound (hs : Sound db) {operation : Operation} (h : handle db operation = .ok db') :
    Sound db' := by
  cases operation with
  | create_subsystem system_id data tenant_id => exact create_subsystem_sound hs h
  | delete_subsystem subsystem_id system_id tenant_id now =>
    obtain ⟨s, -, -, -, hsame, hsystems, hsubs⟩ := delete_subsystem_ok h
    exact retire_sound hs hsame (fun y hy => ⟨y, by rwa [hsystems], rfl, rfl⟩) hsubs
  | delete_system system_id tenant_id now =>
    obtain ⟨hsame, hsystems, hsubs⟩ := delete_system_ok h
    exact retire_sound hs hsame hsystems hsubs
  | apply system_id tenant_id source edge_source declared => exact apply_sound hs h
  | add_system_to_environment env_id system_id tenant_id => exact add_system_sound hs h
  | remove_system_from_environment env_id system_id tenant_id => exact remove_system_sound hs h
  | delete_environment env_id tenant_id now => exact delete_environment_sound hs h

theorem handle_follows (hs : Sound db) (hi : Follows db) {operation : Operation}
    (h : handle db operation = .ok db') : Follows db' ↔ ¬ Touches db operation := by
  cases operation with
  | create_subsystem system_id data tenant_id => exact create_subsystem_follows hi h
  | delete_subsystem subsystem_id system_id tenant_id now => exact delete_subsystem_follows hi h
  | delete_system system_id tenant_id now => exact delete_system_follows hi h
  | apply system_id tenant_id source edge_source declared => exact apply_follows hi h
  | add_system_to_environment env_id system_id tenant_id =>
    exact iff_of_true (add_system_follows hs hi h) not_false
  | remove_system_from_environment env_id system_id tenant_id =>
    exact iff_of_true (remove_system_follows hs hi h) not_false
  | delete_environment env_id tenant_id now =>
    exact iff_of_true (delete_environment_follows hi h) not_false

theorem step_sound (db : Db) (operation : Operation) (hs : Sound db) :
    Sound (step db operation) :=
  commit_or_rollback_keeps hs fun _ h => handle_sound hs h

theorem step_follows (db : Db) (operation : Operation) (hs : Sound db) (hi : Follows db) :
    Follows (step db operation) ↔ ¬ (Accepted db operation ∧ Touches db operation) := by
  rw [not_and]
  exact commit_or_rollback_iff hi fun _ h => handle_follows hs hi h

/-- **When environments follow the catalogue.** In every state of a run, exactly if no
operation of it that is let through creates or deletes a subsystem of a system assigned to
an environment that is live at that moment. -/
theorem follows_iff_along (environments : Table Environment Environment.id)
    (systems : Table System System.id) (custom_fields : List Bookings.CustomFieldDefinition)
    (operations : List Operation) :
    Always step Follows (Db.opened environments systems custom_fields) operations ↔
      Along step (fun db operation => ¬ (Accepted db operation ∧ Touches db operation))
        (Db.opened environments systems custom_fields) operations :=
  Runs.always_iff_along step_sound step_follows (sound_opened environments systems custom_fields)
    (follows_opened environments systems custom_fields) operations

/-! ## A service that is added to a system in use -/

namespace Later

def environment : Table.New Environment.id :=
  ⟨fun id => ⟨id, 1, "dev-1", .active, some 1, none, none⟩, fun _ => rfl⟩

def system : Table.New System.id := ⟨fun id => ⟨id, 1, "shop", none⟩, fun _ => rfl⟩

def opened : Db := Db.opened (Table.empty.insert environment) (Table.empty.insert system) []

def api : Scanning.DeclaredSubsystem := ⟨"api", "web_service", none, "docker-compose.yml"⟩

def database : Scanning.DeclaredSubsystem := ⟨"db", "database", none, "docker-compose.yml"⟩

def scan (declared : DeclaredState) : Operation :=
  .apply 1 1 .DOCKER_COMPOSE (some .DOCKER_COMPOSE) declared

/-- The first scan is before the environment is set up, the second after it. -/
def operations : List Operation :=
  [scan ⟨[api], [], []⟩, .add_system_to_environment 1 1 1,
    scan ⟨[api, database], [⟨"api", "db", none, "docker-compose.yml"⟩], []⟩]

end Later

/-- The database that the second scan finds is never put into the environment, whose
verification says it is missing. -/
theorem later_subsystem_is_missing :
    verify_components (Runs.run step Later.opened Later.operations) 1 1 =
        [⟨1, "api", 2, "db", .API_CALL, .missing⟩] ∧
      ¬ Follows (Runs.run step Later.opened Later.operations) := by
  refine ⟨by decide, fun h => ?_⟩
  have hrow := (h (Later.environment.row 1) (by decide) rfl 2).2
    ⟨1, ⟨⟨1, 1, 1, 1⟩, by decide, rfl, rfl⟩, ⟨2, 1, 1, "db", "database", none, .DOCKER_COMPOSE,
      some "docker-compose.yml", none⟩, by decide, rfl, rfl, rfl⟩
  have hnone : ¬ ∃ r ∈ (Runs.run step Later.opened Later.operations).environment_subsystems,
      r.environment_id = 1 ∧ r.subsystem_id = 2 := by decide
  exact hnone hrow

end EnvMgr.Contents
